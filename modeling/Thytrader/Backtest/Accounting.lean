import Thytrader.Backtest.Turns

/-!
# The accounting identity of a backtest

Cash moves at an entry fill, a scale-in, a funding charge and an exit; a trade's net
profit is recomputed at its exit from the averaged entry, the accumulated entry fees
and the accumulated funding. What ties the two together is the cash an open position
has moved so far (`Position.cashFlow`): every step leaves

  cash − Σ net profit of closed trades − Σ cash flow of open positions

where it was, as long as the books are consistent (`Book.Consistent`). The result of a run
accounts for itself (`simulateBacktest_accounting`).
-/

namespace Thytrader.Backtest

open Lib MarketData Strategies Trading Evaluation List Option Position

variable {feed : BookFeed} {sim : Simulation} {books : List Book} {feeds : List BookFeed}
  {fillModel : FillModel}

def Position.cashFlow (position : Position) : Decimal :=
  entryCash position.side 0 position.entry.notional position.entry.fee + position.funding.getD 0

def Book.cashFlow (book : Book) : Decimal := book.position.elim 0 Position.cashFlow

/-- Every entry and position of the book is on the run's side, and the recorded notional
of an entry is its quantity at its averaged price. -/
structure Book.Consistent (side : PositionSide) (book : Book) : Prop where
  pendingSide : ∀ pending ∈ book.pending, pending.side = side
  positionSide : ∀ position ∈ book.position, position.side = side
  entryNotional : ∀ position ∈ book.position,
    position.entry.notional = position.entry.quantity * position.entry.price

theorem entryCash_eq (side : PositionSide) (cash notional fee : Decimal) :
    entryCash side cash notional fee = cash + entryCash side 0 notional fee := by
  cases side <;> simp only [entryCash] <;> ring

/-! ## Exits -/

variable {trade : BacktestTrade} {reason : ExitReason} {quote : FillQuote} {feeRate : Decimal}
  {done todo : List Book} {state : RunState} {account : Account} {startsAt : Time}

theorem closePosition_cash {position : Position} {candle : Candle} {cash cash' : Decimal}
    {bar : Duration}
    (h : closePosition position candle cash quote reason feeRate bar = .ok (trade, cash')) :
    cash' - trade.netPnl = cash - position.cashFlow := by
  unfold closePosition at h
  simp only at h
  obtain ⟨-, h⟩ := of_ite_ne h nofun
  obtain ⟨rfl, rfl⟩ := h
  cases hside : position.side <;>
    simp only [exitLedger, cashFlow, entryCash, hside] <;> ring

/-- An exit attempt settles: the book stays consistent, and cash less the closed trade's
profit less what is still open is unchanged. -/
structure Closing.Settles (side : PositionSide) (cash : Decimal) (book : Book)
    (closing : Closing) : Prop where
  consistent : closing.book.Consistent side
  balanced : closing.cash - closing.trade.elim 0 (·.netPnl) - closing.book.cashFlow =
    cash - book.cashFlow

section

variable {side : PositionSide} {book : Book} {candle : Candle} {costs : Costs} {cash : Decimal}
  {bar : Duration} {closing : Closing}
variable {strategy : StrategyDefinition} {position : Position}

theorem trailPosition_cashFlow {trailed : Position} {record : Option SignalTraceRecord}
    {isFillBar : Bool} (h : trailPosition position candle strategy record isFillBar = .ok trailed) :
    trailed.cashFlow = position.cashFlow := by
  obtain ⟨stop, extreme, rfl⟩ := trailPosition_frame h
  rfl

/-- A covered position settles against the cash it moved. -/
theorem closed_balanced {held : Position} {pending : Option PendingEntry} {cash' : Decimal}
    (hheld : book.position = some held) (hflow : position.cashFlow = held.cashFlow)
    (h : closePosition position candle cash quote reason feeRate bar = .ok (trade, cash')) :
    cash' - trade.netPnl - Book.cashFlow { book with pending := pending, position := none } =
      cash - book.cashFlow := by
  have hcash := closePosition_cash h
  simp only [Book.cashFlow, hheld, elim_some, elim_none, ← hflow]
  linarith

variable {offset : Nat}

theorem ExitOutcome.settles (hbook : book.Consistent side)
    (h : ExitOutcome feed book candle offset strategy costs cash bar closing) :
    closing.Settles side cash book := by
  cases h with
  | flat => exact ⟨hbook, by simp⟩
  | @arms position trailed _ hheld htrail =>
    have hflow : trailed.cashFlow = position.cashFlow := trailPosition_cashFlow htrail
    have harmed : Position.cashFlow { trailed with takeProfitResting := true } =
        trailed.cashFlow := rfl
    obtain ⟨stop, extreme, hframe⟩ := trailPosition_frame htrail
    refine ⟨⟨hbook.pendingSide, ?_, ?_⟩, ?_⟩
    · rintro _ ⟨⟩
      rw [hframe]
      exact hbook.positionSide position hheld
    · rintro _ ⟨⟩
      rw [hframe]
      exact hbook.entryNotional position hheld
    · simp only [Book.cashFlow, hheld, elim_some, elim_none, harmed, hflow, sub_zero]
  | @closes held position _ _ _ _ _ hheld hposition _ _ _ hclose =>
    refine ⟨⟨hbook.pendingSide, by simp, by simp⟩, ?_⟩
    have hflow : position.cashFlow = held.cashFlow := by
      rcases hposition with rfl | ⟨isFillBar, htrail⟩
      · rfl
      · exact trailPosition_cashFlow htrail
    exact closed_balanced hheld hflow hclose

end

/-! ## Entries -/

section

variable {side : PositionSide} {pending : PendingEntry} {position held : Position}
  {candle : Candle} {costs : Costs} {cash cash' : Decimal}

theorem openPosition_cash
    (h : openPosition pending candle cash offset costs = .ok (some (position, cash'))) :
    cash' - position.cashFlow = cash ∧ position.side = pending.side ∧
      position.entry.notional = position.entry.quantity * position.entry.price := by
  obtain ⟨opening, -, h⟩ := bind_eq_ok h
  rcases opening with _ | ⟨quantity, unitFee⟩
  · cases h
  · simp only at h
    obtain ⟨-, h⟩ := of_ite_ne h nofun
    obtain ⟨rfl, rfl⟩ := h
    refine ⟨?_, rfl, rfl⟩
    -- a perpetual position opens with zero funding, any other with none
    have hfunding :
        (if costs.futures.any (·.perpetual) then some (0 : Decimal) else none).getD 0 = 0 := by
      split <;> rfl
    simp only [cashFlow, hfunding]
    rw [entryCash_eq]
    ring

/-- A scale-in moves what it adds to the position's cash flow: quantity at the averaged price is the
old notional plus the added one. -/
theorem scaleIn_cash (hside : pending.side = held.side)
    (hnotional : held.entry.notional = held.entry.quantity * held.entry.price)
    (h : scaleIn pending held cash costs = .ok (some (position, cash'))) :
    cash' - position.cashFlow = cash - held.cashFlow ∧ position.side = held.side ∧
      position.entry.notional = position.entry.quantity * position.entry.price := by
  obtain ⟨-, h⟩ := of_ite_ne h nofun
  obtain ⟨price, hprice, h⟩ := bind_eq_ok h
  obtain ⟨hne, rfl⟩ := divide_eq_ok hprice
  obtain ⟨rfl, rfl⟩ := h
  refine ⟨?_, rfl, rfl⟩
  have hwhole : (held.entry.quantity + pending.quantity) *
      ((held.entry.price * held.entry.quantity +
        (costs.fillModel.maker pending.limitPrice).price * pending.quantity) /
        (held.entry.quantity + pending.quantity)) =
      held.entry.notional + pending.quantity *
        (costs.fillModel.maker pending.limitPrice).price := by
    rw [mul_div_cancel₀ _ hne, hnotional]
    ring
  simp only [cashFlow, hwhole, hside]
  cases held.side <;> simp only [entryCash] <;> ring

end

/-! ## One product's turn -/

/-- The part of a desk's cash that neither closed trades nor the open position explain. -/
def Desk.residue (desk : Desk) : Decimal :=
  desk.cash - (desk.trades.map (·.netPnl)).sum - desk.book.cashFlow

/-- A turn leaves the residue alone. -/
structure Desk.Keeps (side : PositionSide) (before after : Desk) : Prop where
  consistent : after.book.Consistent side
  residue : after.residue = before.residue

section

variable {side : PositionSide} {desk desk' : Desk} {candle : Candle} {costs : Costs}
  {strategy : StrategyDefinition} {bar : Duration} {offset : Nat}

theorem keeps_refl (hbook : desk.book.Consistent side) : desk.Keeps side desk := ⟨hbook, rfl⟩

/-- Counting, and resting an entry on the run's side, move no money. -/
theorem keeps_pending {book : Book} {tally : Tally} (hbook : desk.book.Consistent side)
    (hpending : ∀ pending ∈ book.pending, pending.side = side)
    (hposition : book.position = desk.book.position) :
    desk.Keeps side { desk with book := book, tally := tally } := by
  refine ⟨⟨hpending, ?_, ?_⟩, ?_⟩
  · simpa only [hposition] using hbook.positionSide
  · simpa only [hposition] using hbook.entryNotional
  · simp only [Desk.residue, Book.cashFlow, hposition]

variable {closing : Closing}

theorem recordClose_keeps {tally : Tally} (h : closing.Settles side desk.cash desk.book) :
    desk.Keeps side (recordClose { desk with tally := tally } closing strategy) := by
  have hbalance := h.balanced
  unfold recordClose
  split
  next htrade =>
    rw [htrade, elim_none] at hbalance
    refine ⟨h.consistent, ?_⟩
    simp only [Desk.residue]
    linarith
  next trade htrade =>
    rw [htrade, elim_some] at hbalance
    refine ⟨⟨h.consistent.pendingSide, h.consistent.positionSide, h.consistent.entryNotional⟩, ?_⟩
    simp only [Desk.residue, map_append, sum_append, map_cons, map_nil, sum_singleton]
    have hflow : Book.cashFlow { closing.book with cooldownBars := strategy.entry.cooldownBars } =
        closing.book.cashFlow := rfl
    linarith

theorem fillPosition_cash {held : Option Position} {pending : PendingEntry} {position : Position}
    {cash cash' : Decimal} (hside : pending.side = side)
    (hheld : ∀ open_ ∈ held, open_.side = side ∧
      open_.entry.notional = open_.entry.quantity * open_.entry.price)
    (h : fillPosition held pending candle cash offset costs = .ok (some (position, cash'))) :
    cash' - position.cashFlow = cash - held.elim 0 cashFlow ∧ position.side = side ∧
      position.entry.notional = position.entry.quantity * position.entry.price := by
  cases held with
  | none =>
    obtain ⟨hflow, hpos, hnotional⟩ := openPosition_cash h
    simp only [elim_none, sub_zero]
    exact ⟨hflow, hpos.trans hside, hnotional⟩
  | some open_ =>
    obtain ⟨hopen, hopenNotional⟩ := hheld open_ rfl
    obtain ⟨hflow, hpos, hnotional⟩ := scaleIn_cash (hside.trans hopen.symm) hopenNotional h
    exact ⟨hflow, hpos.trans hopen, hnotional⟩

theorem EntryMatch.keeps (hbook : desk.book.Consistent side)
    (h : EntryMatch desk candle offset strategy costs desk') : desk.Keeps side desk' := by
  cases h with
  | idle => exact keeps_refl hbook
  | @waits pending hpending | @reprices pending hpending =>
    refine keeps_pending hbook ?_ rfl
    rintro _ ⟨⟩
    exact hbook.pendingSide pending hpending
  | expires | refuses => exact keeps_pending hbook (by simp) rfl
  | @fills pending position cash hpending hfill =>
    have hside : (stressedEntry costs.executionStress pending).side = side :=
      (stressedEntry_side _ _).trans (hbook.pendingSide pending hpending)
    obtain ⟨hflow, hpos, hnotional⟩ := fillPosition_cash hside
      (fun open_ hopen => ⟨hbook.positionSide open_ hopen, hbook.entryNotional open_ hopen⟩) hfill
    refine ⟨⟨by simp, ?_, ?_⟩, ?_⟩
    · rintro _ ⟨⟩
      exact hpos
    · rintro _ ⟨⟩
      exact hnotional
    · simp only [Desk.residue]
      have hnew : Book.cashFlow { desk.book with pending := none, position := some position } =
          position.cashFlow := rfl
      have hold : desk.book.cashFlow = desk.book.position.elim 0 cashFlow := rfl
      linarith

/-- Funding moves into cash exactly what it adds to the position's funding. -/
theorem FundingOutcome.keeps {book : Book} {cash : Decimal} (hbook : desk.book.Consistent side)
    (h : FundingOutcome desk.book costs desk.cash book cash) :
    desk.Keeps side { desk with book := book, cash := cash } := by
  cases h with
  | none => exact keeps_refl hbook
  | @flows position hheld _ flow =>
    refine ⟨⟨hbook.pendingSide, ?_, ?_⟩, ?_⟩
    · rintro _ ⟨⟩
      exact hbook.positionSide position hheld
    · rintro _ ⟨⟩
      exact hbook.entryNotional position hheld
    · simp only [Desk.residue, Book.cashFlow, hheld, elim_some, Position.cashFlow,
        getD_some]
      ring

theorem ExpiryOutcome.settles (hbook : desk.book.Consistent side)
    (h : ExpiryOutcome desk candle costs bar closing) :
    closing.Settles side desk.cash desk.book := by
  cases h with
  | flat => exact ⟨⟨by simp, hbook.positionSide, hbook.entryNotional⟩, by simp [Book.cashFlow]⟩
  | closes hheld hclose =>
    exact ⟨⟨by simp, by simp, by simp⟩, closed_balanced hheld rfl hclose⟩

theorem EntryRest.keeps {record : SignalTraceRecord} {limitPrice : Decimal}
    {mayOpenBook expiryWindow : Bool} (hbook : desk.book.Consistent strategy.entry.side)
    (h : EntryRest desk record strategy costs limitPrice mayOpenBook expiryWindow desk') :
    desk.Keeps strategy.entry.side desk' := by
  cases h with
  | warmup | skips => exact keeps_pending hbook hbook.pendingSide rfl
  | unmatched => exact keeps_refl hbook
  | @rests pending _ hsized =>
    have hside : pending.side = strategy.entry.side := by
      cases hheld : desk.book.position with
      | none =>
        rw [hheld] at hsized
        obtain ⟨_, _, _, _, -, -, rfl⟩ := sizeEntry_eq_ok hsized
        rfl
      | some position =>
        rw [hheld] at hsized
        obtain ⟨_, _, -, -, -, -, -, rfl⟩ := sizePyramidAdd_eq_ok hsized
        exact hbook.positionSide position hheld
    exact keeps_pending hbook (by rintro _ ⟨⟩; exact hside) rfl

end

/-! ## Runs -/

/-- The cash of an account that neither its closed trades nor the open books explain. -/
def Account.residue (account : Account) (books : List Book) : Decimal :=
  account.cash - (account.trades.map (·.netPnl)).sum - (books.map Book.cashFlow).sum

variable {desk' desk : Desk}

theorem TurnStep.keeps {candle : Candle} (hbook : desk.book.Consistent sim.strategy.entry.side)
    (h : TurnStep sim offset feed candle done todo desk desk') :
    desk.Keeps sim.strategy.entry.side desk' := by
  cases h with
  | cools => exact keeps_pending hbook hbook.pendingSide rfl
  | entry hmatch => exact hmatch.keeps hbook
  | exits hexit => exact recordClose_keeps (hexit.settles hbook)
  | funds hfunding => exact hfunding.keeps hbook
  | flattens _ hexpiry => exact recordClose_keeps (hexpiry.settles hbook)
  | rests hrest => exact hrest.keeps hbook

/-- The residue of the run is its initial cash. -/
structure Settled (sim : Simulation) (account : Account) (books : List Book) : Prop where
  consistent : ∀ book ∈ books, book.Consistent sim.strategy.entry.side
  residue : account.residue books = sim.initialCash

theorem Settled.exchange (hsettled : Settled sim desk.toAccount (done ++ desk.book :: todo))
    (hkeeps : desk.Keeps sim.strategy.entry.side desk') :
    Settled sim desk'.toAccount (done ++ desk'.book :: todo) := by
  refine ⟨forall_exchange hsettled.consistent hkeeps.consistent, ?_⟩
  have hresidue := hkeeps.residue
  have hbefore := hsettled.residue
  simp only [Desk.residue] at hresidue
  simp only [Account.residue, map_append, map_cons, sum_append, sum_cons] at hbefore ⊢
  linarith

theorem settled_keptBySteps (sim : Simulation) :
    KeptBySteps sim (fun books account => Settled sim account books) := by
  intro offset feed _ candle done todo desk desk' _ hstep hsettled
  exact hsettled.exchange (hstep.keeps (hsettled.consistent desk.book (by simp)))

theorem initial_settled (sim : Simulation) :
    Settled sim sim.initial.toAccount sim.initial.books := by
  refine ⟨?_, ?_⟩
  · intro book hbook
    obtain ⟨feed, -, rfl⟩ := mem_map.mp hbook
    exact ⟨by simp, by simp, by simp⟩
  · simp [Account.residue, Simulation.initial, Book.cashFlow]

theorem runBars_settled {bars : Nat} (h : runBars sim bars = .ok state) :
    Settled sim state.toAccount state.books :=
  runBars_invariant (settled_keptBySteps sim).turns (initial_settled sim) h

/-! ## The close-out -/

/-- The profit of a closed-out book is in the trades. -/
theorem CloseOut.residue (h : CloseOut sim feed desk desk') : desk'.residue = desk.residue := by
  cases h with
  | flat => rfl
  | sells hheld _ hclose =>
    have hcash := closePosition_cash hclose
    simp only [Desk.residue, Book.cashFlow, hheld, elim_some, elim_none,
      map_append, sum_append, map_cons, map_nil, sum_singleton]
    linarith

theorem settled_keptByCloseOut (sim : Simulation) :
    KeptByCloseOut sim (fun books account => Settled sim account books) := by
  intro feed _ done todo desk desk' hclose hsettled
  obtain ⟨hpending, hposition⟩ := hclose.empty
  exact hsettled.exchange ⟨⟨by simp [hpending], by simp [hposition], by simp [hposition]⟩,
    hclose.residue⟩

theorem closeOutBooks_residue {books' : List Book} {account' : Account}
    (hlength : books.length = feeds.length)
    (h : closeOutBooks sim feeds books account = .ok (books', account')) :
    (∀ book ∈ books', book.position = none) ∧ books'.length = books.length ∧
      account'.residue books' = account.residue books := by
  induction feeds generalizing books books' account with
  | nil =>
    obtain rfl := length_eq_zero_iff.mp hlength
    obtain ⟨rfl, rfl⟩ := h
    exact ⟨by simp, rfl, rfl⟩
  | cons _ _ ih =>
    cases books with
    | nil => simp at hlength
    | cons =>
      obtain ⟨desk, hdesk, h⟩ := bind_eq_ok h
      obtain ⟨⟨rest, final⟩, hrest, h⟩ := bind_eq_ok h
      cases h
      have hclosedOut := closeOutBook_cases hdesk
      have hresidue := hclosedOut.residue
      obtain ⟨hclosed, hsame, htail⟩ := ih (by simpa using hlength) hrest
      refine ⟨?_, by simp [hsame], ?_⟩
      · rintro other (_ | ⟨_, hother⟩)
        · exact hclosedOut.empty.2
        · exact hclosed other hother
      · simp only [Desk.residue] at hresidue
        simp only [Account.residue, map_cons, sum_cons] at htail ⊢
        linarith

/-! ## Equity -/

def openValue (fillModel : FillModel) (prices : List Decimal) (books : List Book) : Decimal :=
  ((prices.zip books).map (fun row => row.2.position.elim 0 (fun position =>
    signedQuantity position * fillModel.mark row.1 position.side))).sum

theorem openValue_cons (fillModel : FillModel) (price : Decimal) (prices : List Decimal)
    (book : Book) (books : List Book) :
    openValue fillModel (price :: prices) (book :: books) =
      book.position.elim 0 (fun position =>
        signedQuantity position * fillModel.mark price position.side) +
      openValue fillModel prices books := rfl

def candlesAt (feeds : List BookFeed) (startsAt : Time) : Result (List Candle) :=
  feeds.mapM (fun feed => lookup feed.candleByStart startsAt)

def markedValue (row : Option Position × Decimal) : Decimal :=
  row.1.elim 0 (fun position => signedQuantity position * row.2)

theorem foldl_equity (rows : List (Option Position × Decimal)) (cash : Decimal) :
    rows.foldl addMarked cash = cash + (rows.map markedValue).sum := by
  induction rows generalizing cash with
  | nil => simp
  | cons row _ ih =>
    rw [foldl_cons, ih, map_cons, sum_cons]
    rcases row with ⟨_ | position, mark⟩
    · simp [markedValue, addMarked]
    · simp only [markedValue, addMarked, elim_some]
      ring

theorem markBooks_value {useOpen : Bool} {rows : List (Option Position × Decimal)}
    (hlength : books.length = feeds.length)
    (h : markBooks feeds books startsAt fillModel useOpen = .ok rows) :
    ∃ candles, candlesAt feeds startsAt = .ok candles ∧
      (rows.map markedValue).sum = openValue fillModel
        (candles.map (fun candle => if useOpen then candle.open_ else candle.close)) books := by
  induction feeds generalizing books rows with
  | nil =>
    cases h
    exact ⟨[], rfl, rfl⟩
  | cons _ _ ih =>
    cases books with
    | nil => simp at hlength
    | cons book =>
      simp only [markBooks, zip_cons_cons, mapM_cons] at h
      obtain ⟨row, hrow, h⟩ := bind_eq_ok h
      obtain ⟨rest, hrest, rfl⟩ := bind_pure_ok h
      obtain ⟨candle, hcandle, rfl⟩ := bind_pure_ok hrow
      obtain ⟨candles, hcandles, hvalue⟩ := ih (by simpa using hlength) hrest
      refine ⟨candle :: candles, ?_, ?_⟩
      · unfold candlesAt at hcandles
        simp only [candlesAt, mapM_cons, hcandle, hcandles, bind, Except.bind]
        rfl
      · rw [map_cons, sum_cons, hvalue, map_cons, openValue_cons]
        cases hheld : book.position <;> simp [markedValue]

theorem equityPoint_spec {cash : Decimal} {useOpen : Bool} {point : EquityPoint}
    (hlength : books.length = feeds.length)
    (h : equityPoint startsAt cash feeds books fillModel useOpen = .ok point) :
    point.candleStartsAt = startsAt ∧ point.cash = cash ∧
      ∃ candles, candlesAt feeds startsAt = .ok candles ∧
        point.equity = cash + openValue fillModel
          (candles.map (fun candle => if useOpen then candle.open_ else candle.close)) books := by
  obtain ⟨rows, hrows, h⟩ := bind_eq_ok h
  obtain ⟨candles, hcandles, hvalue⟩ := markBooks_value hlength hrows
  cases h
  refine ⟨rfl, rfl, candles, hcandles, ?_⟩
  rw [← hvalue]
  exact foldl_equity rows cash

/-- Books without positions are worth nothing. -/
theorem openValue_flat {prices : List Decimal} (h : ∀ book ∈ books, book.position = none) :
    openValue fillModel prices books = 0 := by
  apply sum_eq_zero
  intro value hvalue
  obtain ⟨row, hrow, rfl⟩ := mem_map.mp hvalue
  rw [h row.2 (of_mem_zip hrow).2]
  rfl

/-- The equity point of a bar is right: same instant, same cash, and equity is that cash plus the
open positions at the bar's marks. -/
structure MarksBar (sim : Simulation) (offset : Nat) (state : RunState) (point : EquityPoint) :
    Prop where
  instant : point.candleStartsAt = sim.barStart offset
  cash : point.cash = state.cash
  equity : ∃ candles, candlesAt sim.feeds (sim.barStart offset) = .ok candles ∧
    point.equity = state.cash + openValue sim.costs.fillModel (candles.map (·.close)) state.books

theorem simulateBar_marks {state' : RunState} (hlength : state'.books.length = sim.feeds.length)
    (h : simulateBar sim offset state = .ok state') :
    ∃ point, state'.equityCurve = state.equityCurve ++ [point] ∧ MarksBar sim offset state' point := by
  obtain ⟨⟨books, account⟩, -, h⟩ := bind_eq_ok h
  obtain ⟨point, hpoint, rfl⟩ := bind_pure_ok h
  obtain ⟨hinstant, hcash, hequity⟩ := equityPoint_spec hlength hpoint
  exact ⟨point, rfl, hinstant, hcash, by simpa using hequity⟩

theorem runBars_marks {bars : Nat} (h : runBars sim bars = .ok state) :
    state.equityCurve.length = bars ∧ ∀ offset < bars, ∃ reached point,
      runBars sim (offset + 1) = .ok reached ∧ state.equityCurve[offset]? = some point ∧
        MarksBar sim offset reached point := by
  induction bars generalizing state with
  | zero =>
    cases h
    exact ⟨rfl, by simp⟩
  | succ bars ih =>
    have hrun := h
    obtain ⟨before, hbefore, h⟩ := bind_eq_ok h
    obtain ⟨hlength, hmarks⟩ := ih hbefore
    obtain ⟨point, hcurve, hpoint⟩ := simulateBar_marks (runBars_length hrun) h
    refine ⟨by simp [hcurve, hlength], ?_⟩
    intro offset hoffset
    by_cases hlast : offset = bars
    · -- the bar just processed
      subst hlast
      refine ⟨state, point, hrun, ?_, hpoint⟩
      rw [hcurve, ← hlength]
      simp
    · -- an earlier bar, whose mark stays where it was recorded
      obtain ⟨reached, earlier, hreached, hearlier, hmark⟩ := hmarks offset (by omega)
      refine ⟨reached, earlier, hreached, ?_, hmark⟩
      rw [hcurve, getElem?_append_left (by omega)]
      exact hearlier

/-- The whole loop ends flat, with every cent of cash explained by closed trades. -/
theorem runSimulation_spec {final : RunState} (h : runSimulation sim = .ok final) :
    final.cash - sim.initialCash = (final.trades.map (·.netPnl)).sum ∧
      (∀ book ∈ final.books, book.position = none) ∧
      final.equityCurve.length = sim.evaluationBars + 1 ∧
      (∀ offset < sim.evaluationBars, ∃ reached point,
        runBars sim (offset + 1) = .ok reached ∧ final.equityCurve[offset]? = some point ∧
          MarksBar sim offset reached point) ∧
      ∃ point, final.equityCurve[sim.evaluationBars]? = some point ∧
        point.candleStartsAt = sim.endsAt ∧ point.cash = final.cash ∧ point.equity = final.cash := by
  obtain ⟨state, hstate, h⟩ := bind_eq_ok h
  obtain ⟨⟨books, account⟩, hclose, h⟩ := bind_eq_ok h
  obtain ⟨point, hpoint, rfl⟩ := bind_pure_ok h
  have hsettled := runBars_settled hstate
  have hlength := runBars_length hstate
  obtain ⟨hflat, hsame, hresidue⟩ := closeOutBooks_residue hlength hclose
  obtain ⟨hcurve, hmarks⟩ := runBars_marks hstate
  obtain ⟨hinstant, hcash, candles, -, hequity⟩ := equityPoint_spec (hsame.trans hlength) hpoint
  -- a flat book has moved no cash
  have hzero : (books.map Book.cashFlow).sum = 0 := by
    apply sum_eq_zero
    intro flow hflow
    obtain ⟨book, hbook, rfl⟩ := mem_map.mp hflow
    rw [Book.cashFlow, hflat book hbook]
    rfl
  have htotal := hresidue.trans hsettled.residue
  simp only [Account.residue, hzero] at htotal
  refine ⟨by linarith, hflat, by simp [hcurve], ?_, point, ?_, hinstant, hcash, ?_⟩
  · intro offset hoffset
    obtain ⟨reached, earlier, hreached, hearlier, hmark⟩ := hmarks offset hoffset
    refine ⟨reached, earlier, hreached, ?_, hmark⟩
    rw [getElem?_append_left (by omega)]
    exact hearlier
  · rw [← hcurve]
    simp
  · rw [hequity, openValue_flat hflat, add_zero]

/-! ## Accepted backtests -/

/-- Final cash less the initial balance is the net profit of the emitted trades. A bar's equity
point is the cash after it plus every open position at its mark; the terminal point is the final
cash over flat books. -/
theorem simulateBacktest_accounting {engine : Engine} {specification : ResearchRunSpecification}
    {strategy : StrategyDefinition} {history : History}
    {fundingRates : Option (Dict Time Decimal)} {result : BacktestResult}
    (h : simulateBacktest engine specification strategy history fundingRates = .ok result) :
    ∃ sim final,
      backtestSimulation engine specification strategy history fundingRates = .ok sim ∧
      runSimulation sim = .ok final ∧ result.summary.finalEquity = final.cash ∧
      final.cash - specification.initialQuoteBalance = (result.trades.map (·.netPnl)).sum ∧
      result.equityCurve.length = sim.evaluationBars + 1 ∧
      (∀ offset < sim.evaluationBars, ∃ reached point,
        runBars sim (offset + 1) = .ok reached ∧ result.equityCurve[offset]? = some point ∧
          MarksBar sim offset reached point) ∧
      (∀ book ∈ final.books, book.position = none) ∧
      ∃ point, result.equityCurve[sim.evaluationBars]? = some point ∧
        point.candleStartsAt = specification.evaluation.endsAt ∧ point.cash = final.cash ∧
        point.equity = final.cash := by
  obtain ⟨sim, final, hsim, hfinal, htrades, hcurve, -, hcash⟩ := simulateBacktest_run h
  obtain ⟨⟨futures, traces⟩, -, hprepare⟩ := bind_eq_ok hsim
  obtain ⟨_, _, _, hinitial, -, -, hends⟩ := prepareSimulation_spec hprepare
  obtain ⟨hidentity, hflat, hlength, hmarks, hterminal⟩ := runSimulation_spec hfinal
  rw [hinitial] at hidentity
  rw [hends] at hterminal
  refine ⟨sim, final, hsim, hfinal, hcash, ?_, ?_, ?_, hflat, ?_⟩
  · rw [htrades]
    exact hidentity
  · rw [hcurve]
    exact hlength
  · rw [hcurve]
    exact hmarks
  · rw [hcurve]
    exact hterminal

/-! A run of three hourly bars that buys at the first close, fills on the second bar and
sells at the third close. -/

def hourlyStrategy : StrategyDefinition where
  instrument := { productId := "BTC-USDC", baseCurrency := "BTC" }
  timeframe := .oneHour
  dataRequirements := { warmupBars := ⟨2, by decide, by decide⟩, referencesDistinct := by simp }
  indicators :=
    [{ id := "atr", rule := .atr ⟨2, by decide, by decide⟩ },
      { id := "close", rule := .identity .close }]
  entry :=
    { side := .long
      condition := .comparison (.indicator { indicator := "close" }) .greaterThan (.literal 0)
      cooldownBars := 0
      maxOpenPositions := 1
      pyramiding := false
      positionBounds := by simp }
  sizing :=
    { riskFraction := 1 / 100
      minQuoteNotional := 10
      maxQuoteNotional := 500
      riskBounded := by norm_num
      notionalOrdered := by norm_num }
  portfolioLimits :=
    { maxStrategyExposureFraction := 1
      maxConcurrentPositions := 1
      exposureBounded := by norm_num
      positionsBounded := by norm_num }
  exits :=
    { initialStop := ⟨"atr", 2, by norm_num⟩
      takeProfit := none
      trailingStop := none
      maxBarsHeld := 1 }
  execution := ⟨⟨1, by decide, by decide⟩, .cancel⟩
  productsDistinct := by decide
  futuresAlone := ⟨rfl, by simp⟩
  positionsCovered := by decide

/-- A request for that strategy: two warmup bars, three evaluation bars. -/
def hourlySpecification : ResearchRunSpecification where
  strategyFingerprint := "hourly"
  evaluation := ⟨CandleInterval.oneHour.duration * 2, CandleInterval.oneHour.duration * 5, by decide⟩
  warmup := ⟨2, 0⟩
  initialQuoteBalance := 1000
  costs :=
    { makerFeeRate := 1 / 1000
      takerFeeRate := 2 / 1000
      fixedSlippageBps := 5
      feesBounded := by norm_num
      slippageBounded := by norm_num
      spreadBounded := by norm_num
      contractFeeBounded := by simp }
  balancePositive := by norm_num
  futuresTogether := rfl
  fundingPerpetual := rfl
  contractFeeFutures := fun _ => rfl

/-- The same request over four evaluation bars. -/
def fourHourSpecification : ResearchRunSpecification :=
  { hourlySpecification with
    evaluation :=
      ⟨CandleInterval.oneHour.duration * 2, CandleInterval.oneHour.duration * 6, by decide⟩
    futuresTogether := rfl
    fundingPerpetual := rfl
    contractFeeFutures := fun _ => rfl }

/-- An engine under which the request names the strategy; no indicator of it is irrational. -/
def hourlyEngine : Engine where
  math := ⟨id, id, id⟩
  updatesToConverge := fun _ => 0
  strategyFingerprint := fun _ => "hourly"
  fundingSeriesFingerprint := fun _ _ => "none"

def hourlyBar (index : Nat) (close : Decimal) : Candle :=
  { startsAt := CandleInterval.oneHour.duration * index
    open_ := 100, high := 104, low := 98, close := close, volume := 1 }

/-- The closes of the run; the terminal bar is the last one. -/
def hourlyHistory : History where
  candles := [hourlyBar 0 100, hourlyBar 1 101, hourlyBar 2 100, hourlyBar 3 101, hourlyBar 4 103,
    hourlyBar 5 100]

theorem hourlyHistory_accounting :
    ∃ result, simulateBacktest hourlyEngine hourlySpecification hourlyStrategy hourlyHistory none =
        .ok result ∧
      ∃ sim final,
        backtestSimulation hourlyEngine hourlySpecification hourlyStrategy hourlyHistory none =
          .ok sim ∧
        runSimulation sim = .ok final ∧
        final.cash - 1000 = (result.trades.map (·.netPnl)).sum := by
  obtain ⟨result, hrun⟩ := exists_eq_ok (show (simulateBacktest hourlyEngine hourlySpecification
    hourlyStrategy hourlyHistory none).toOption.isSome = true by decide +kernel)
  obtain ⟨sim, final, hsim, hfinal, -, hidentity, -⟩ := simulateBacktest_accounting hrun
  exact ⟨result, hrun, sim, final, hsim, hfinal, hidentity⟩

end Thytrader.Backtest
