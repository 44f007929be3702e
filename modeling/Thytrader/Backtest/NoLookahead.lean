import Thytrader.Backtest.Accounting
import Thytrader.Evaluation.NoLookahead

/-!
# Backtests do not look ahead

Two accepted runs of one request whose candle histories agree on every bar closed by an
instant are in the same state after every evaluation bar closed by then: the same cash,
closed trades, resting entries and open positions with their fills, so the results report
the same about those bars (`simulateBacktest_noLookahead`).

A bar reads its feeds at its own start only (`FeedAgreesAt`), so one bar of two runs is one function
of one state (`simulateBar_congr`).
-/

namespace Thytrader.Backtest

open Lib MarketData Strategies Trading Evaluation List Simulation CandleInterval Int

variable {todo books : List Book} {account : Account} {feed : BookFeed}
  {interval : CandleInterval} {history : History} {traces traces' : Dict String SignalTrace}
  {productId : String} {candles : Dict String (List Candle)} {futures : Option FuturesTerms}

/-- Everything one product's trace and book read from a history. -/
def History.product (history : History) (strategy : StrategyDefinition) (productId : String) :
    ProductCandles :=
  history.productCandles strategy productId
    (((history.candlesByProduct strategy).get? productId).getD [])

/-- Two histories agree on every bar closed by an instant: of every traded product, on
its decision, filter and extra clocks, and of every reference. -/
structure History.AgreeUntil (strategy : StrategyDefinition) (closedBy : Time)
    (first second : History) : Prop where
  products : ∀ productId ∈ lockstepProductIds strategy,
    (first.product strategy productId).AgreeUntil strategy closedBy
      (second.product strategy productId)
  references : ReferencesAgree strategy closedBy first.referenceCandles second.referenceCandles

/-! ## One bar of two runs -/

/-- Two feeds answer alike on one bar. -/
structure FeedAgreesAt (start : Time) (first second : BookFeed) : Prop where
  candle : first.candleByStart.get? start = second.candleByStart.get? start
  record : first.records.get? start = second.records.get? start
  keyed : ∀ candle, first.candleByStart.get? start = some candle → candle.startsAt = start

variable {state final : RunState} {account' : Account} {history' : History}

section

variable {first second : BookFeed} {feeds feeds' : List BookFeed} {start : Time}
variable {offset : Nat} {sim : Simulation} {done : List Book}

theorem lookup_congr {κ α : Type} [DecidableEq κ] {mapping mapping' : Dict κ α} {key : κ}
    (h : mapping.get? key = mapping'.get? key) : lookup mapping key = lookup mapping' key := by
  rw [lookup, lookup, h]

variable {candle : Candle} {desk : Desk}

theorem processBar_congr {strategy : StrategyDefinition} {costs : Costs} {bar : Duration}
    (h : first.records.get? candle.startsAt = second.records.get? candle.startsAt) :
    processBar first desk candle offset strategy costs bar =
      processBar second desk candle offset strategy costs bar := by
  simp only [processBar, exitPosition, managePosition, h]

theorem takeTurn_congr (h : FeedAgreesAt (sim.barStart offset) first second) :
    takeTurn sim offset first done todo desk = takeTurn sim offset second done todo desk := by
  unfold takeTurn
  rw [← lookup_congr h.candle, ← lookup_congr h.record]
  refine bind_congr_ok ?_
  intro candle hcandle
  have hstart := h.keyed candle (lookup_eq_ok.mp hcandle)
  have hrecord : first.records.get? candle.startsAt = second.records.get? candle.startsAt := by
    rw [hstart]
    exact h.record
  rw [processBar_congr hrecord]

theorem takeTurns_congr (h : List.Forall₂ (FeedAgreesAt (sim.barStart offset)) feeds feeds') :
    takeTurns sim offset feeds done todo account =
      takeTurns sim offset feeds' done todo account := by
  induction h generalizing done todo account with
  | nil => rfl
  | cons hfeed _ ih =>
    cases todo with
    | nil => rfl
    | cons =>
      rw [takeTurns, takeTurns, takeTurn_congr hfeed]
      exact bind_congr_ok (fun desk _ => ih)

theorem takeTurns_withFeeds :
    takeTurns sim offset feeds done todo account =
      takeTurns { sim with feeds := feeds' } offset feeds done todo account := by
  induction feeds generalizing done todo account with
  | nil => rfl
  | cons _ _ ih =>
    cases todo with
    | nil => rfl
    | cons =>
      exact bind_congr_ok (fun desk _ => ih)

theorem markBooks_congr {fillModel : FillModel} {useOpen : Bool}
    (h : List.Forall₂ (FeedAgreesAt start) feeds feeds') :
    markBooks feeds books start fillModel useOpen =
      markBooks feeds' books start fillModel useOpen := by
  unfold markBooks
  induction h generalizing books with
  | nil => rfl
  | cons hfeed _ ih =>
    cases books with
    | nil => rfl
    | cons =>
      simp only [zip_cons_cons, mapM_cons, lookup_congr hfeed.candle, ih]

theorem simulateBar_congr (h : List.Forall₂ (FeedAgreesAt (sim.barStart offset)) sim.feeds feeds') :
    simulateBar sim offset state = simulateBar { sim with feeds := feeds' } offset state := by
  unfold simulateBar
  rw [takeTurns_congr h, takeTurns_withFeeds]
  refine bind_congr_ok ?_
  rintro ⟨books, account⟩ _
  simp only [equityPoint, markBooks_congr h]
  rfl

/-- Two runs whose feeds agree on their first bars are in the same state after them. -/
theorem runBars_congr {bars : Nat} (hlength : feeds'.length = sim.feeds.length)
    (h : ∀ offset < bars, List.Forall₂ (FeedAgreesAt (sim.barStart offset)) sim.feeds feeds') :
    runBars sim bars = runBars { sim with feeds := feeds' } bars := by
  induction bars with
  | zero =>
    have hbooks : sim.feeds.map (fun _ => ({} : Book)) = feeds'.map (fun _ => ({} : Book)) := by
      rw [map_const', map_const', hlength]
    simp only [runBars, initial, hbooks]
  | succ bars ih =>
    rw [runBars, runBars, ← ih (fun offset hoffset => h offset (by omega))]
    exact bind_congr_ok (fun state _ => simulateBar_congr (h bars (by omega)))

end

/-! ## Where trades close -/

/-- A trade that closed on the bar opening at `start`, not by the close-out. -/
structure ClosedOn (start : Time) (trade : BacktestTrade) : Prop where
  exit : trade.exit.candleStartsAt = start
  reason : trade.exit.reason ≠ .evaluationEnd

section

variable {book : Book} {candle : Candle} {costs : Costs} {cash : Decimal} {bar : Duration}
  {closing : Closing}

theorem fillEvidence_startsAt (quote : FillQuote) (fill : BacktestFill) :
    (fillEvidence quote fill).candleStartsAt = fill.candleStartsAt := by
  unfold fillEvidence
  split <;> rfl

theorem closePosition_exit {position : Position} {quote : FillQuote} {reason : ExitReason}
    {feeRate cash' : Decimal} {trade : BacktestTrade}
    (h : closePosition position candle cash quote reason feeRate bar = .ok (trade, cash')) :
    trade.exit.candleStartsAt = candle.startsAt ∧ trade.exit.reason = reason := by
  obtain ⟨-, h⟩ := of_ite_ne h nofun
  cases h
  exact ⟨fillEvidence_startsAt _ _, rfl⟩

variable {offset : Nat}

theorem ExitOutcome.closedOn {strategy : StrategyDefinition}
    (h : ExitOutcome feed book candle offset strategy costs cash bar closing) :
    ∀ trade ∈ closing.trade, ClosedOn candle.startsAt trade := by
  cases h with
  | flat | arms => simp
  | closes _ _ _ _ hreason hclose =>
    obtain ⟨hexit, hsame⟩ := closePosition_exit hclose
    rintro _ ⟨⟩
    exact ⟨hexit, hsame ▸ hreason⟩

theorem ExpiryOutcome.closedOn (h : ExpiryOutcome desk candle costs bar closing) :
    ∀ trade ∈ closing.trade, ClosedOn candle.startsAt trade := by
  cases h with
  | flat => simp
  | closes _ hclose =>
    obtain ⟨hexit, hsame⟩ := closePosition_exit hclose
    rintro _ ⟨⟩
    exact ⟨hexit, by simp [hsame]⟩

end

/-- A step appends to the trades only trades that close on its bar. -/
def Emits (start : Time) (before after : List BacktestTrade) : Prop :=
  ∃ emitted, after = before ++ emitted ∧ ∀ trade ∈ emitted, ClosedOn start trade

theorem emits_refl (start : Time) (trades : List BacktestTrade) : Emits start trades trades :=
  ⟨[], by simp, by simp⟩

variable {start : Time}

theorem emits_trans {before between after : List BacktestTrade}
    (hfirst : Emits start before between) (hnext : Emits start between after) :
    Emits start before after := by
  obtain ⟨emitted, rfl, hemitted⟩ := hfirst
  obtain ⟨later, rfl, hlater⟩ := hnext
  refine ⟨emitted ++ later, by simp, ?_⟩
  intro trade htrade
  rcases mem_append.mp htrade with htrade | htrade
  · exact hemitted trade htrade
  · exact hlater trade htrade

section

variable {desk desk' : Desk} {candle : Candle} {costs : Costs} {strategy : StrategyDefinition}
  {bar : Duration} {offset : Nat}

theorem recordClose_emits (desk : Desk) {closing : Closing}
    (h : ∀ trade ∈ closing.trade, ClosedOn start trade) :
    Emits start desk.trades (recordClose desk closing strategy).trades := by
  unfold recordClose
  split
  · exact emits_refl _ _
  next trade htrade =>
    refine ⟨[trade], rfl, ?_⟩
    intro other hother
    obtain rfl := mem_singleton.mp hother
    exact h other htrade

/-- Matching a resting entry closes nothing. -/
theorem EntryMatch.trades (h : EntryMatch desk candle offset strategy costs desk') :
    desk'.trades = desk.trades := by
  cases h <;> rfl

theorem EntryRest.trades {record : SignalTraceRecord} {limitPrice : Decimal}
    {mayOpenBook expiryWindow : Bool}
    (h : EntryRest desk record strategy costs limitPrice mayOpenBook expiryWindow desk') :
    desk'.trades = desk.trades := by
  cases h <;> rfl

theorem BarOutcome.emits (h : BarOutcome feed desk candle offset strategy costs bar desk') :
    Emits candle.startsAt desk.trades desk'.trades := by
  cases h with
  | expiry _ hexpiry => exact recordClose_emits _ hexpiry.closedOn
  | @managed matched closing _ _ hmatch hexit _ =>
    have hsame : matched.trades = (coolDown desk).trades := hmatch.trades
    have hemits : Emits candle.startsAt matched.trades (recordClose matched closing strategy).trades :=
      recordClose_emits matched hexit.closedOn
    rw [hsame] at hemits
    exact hemits

end

section

variable {sim : Simulation} {offset : Nat}

/-- Candles are filed under their own start. -/
def Simulation.Keyed (sim : Simulation) : Prop :=
  ∀ feed ∈ sim.feeds, ∀ start candle, feed.candleByStart.get? start = some candle →
    candle.startsAt = start

variable {done : List Book}

theorem takeTurn_emits {desk desk' : Desk}
    (hkeyed : ∀ start candle, feed.candleByStart.get? start = some candle → candle.startsAt = start)
    (h : takeTurn sim offset feed done todo desk = .ok desk') :
    Emits (sim.barStart offset) desk.trades desk'.trades := by
  obtain ⟨candle, record, processed, hcandle, -, hbar, hrest⟩ := takeTurn_cases h
  rw [hrest.trades, ← hkeyed _ candle hcandle]
  exact hbar.emits

theorem takeTurns_emits {feeds : List BookFeed}
    (hkeyed : ∀ feed ∈ feeds, ∀ start candle, feed.candleByStart.get? start = some candle →
      candle.startsAt = start)
    (h : takeTurns sim offset feeds done todo account = .ok (books, account')) :
    Emits (sim.barStart offset) account.trades account'.trades := by
  induction feeds generalizing done todo account with
  | nil =>
    cases h
    exact emits_refl _ _
  | cons feed _ ih =>
    cases todo with
    | nil =>
      cases h
      exact emits_refl _ _
    | cons =>
      obtain ⟨desk, hturn, h⟩ := bind_eq_ok h
      exact emits_trans (takeTurn_emits (hkeyed feed (by simp)) hturn)
        (ih (fun other hother => hkeyed other (by simp [hother])) h)

/-- What the bars from `bars` on added: trades that close on them, and an equity point for each. -/
structure Extended (sim : Simulation) (bars : Nat) (before after : RunState) (upTo : Nat) :
    Prop where
  trades : ∃ later, after.trades = before.trades ++ later ∧
    ∀ trade ∈ later, ∃ offset, bars ≤ offset ∧ offset < upTo ∧
      ClosedOn (sim.barStart offset) trade
  equity : ∃ later, after.equityCurve = before.equityCurve ++ later ∧
    ∀ point ∈ later, ∃ offset, bars ≤ offset ∧ offset < upTo ∧
      point.candleStartsAt = sim.barStart offset

theorem simulateBar_extends (hkeyed : sim.Keyed) {state' : RunState}
    (h : simulateBar sim offset state = .ok state') :
    Emits (sim.barStart offset) state.trades state'.trades ∧ ∃ point,
      state'.equityCurve = state.equityCurve ++ [point] ∧
        point.candleStartsAt = sim.barStart offset := by
  obtain ⟨⟨books, account⟩, hturns, h⟩ := bind_eq_ok h
  obtain ⟨point, hpoint, rfl⟩ := bind_pure_ok h
  obtain ⟨rows, -, rfl⟩ := bind_pure_ok hpoint
  exact ⟨takeTurns_emits hkeyed hturns, _, rfl, rfl⟩

theorem runBars_extends (hkeyed : sim.Keyed) {bars upTo : Nat} (hle : bars ≤ upTo)
    (h : runBars sim upTo = .ok final) :
    ∃ state, runBars sim bars = .ok state ∧ Extended sim bars state final upTo := by
  induction upTo, hle using Nat.le_induction generalizing final with
  | base => exact ⟨final, h, ⟨[], by simp, by simp⟩, ⟨[], by simp, by simp⟩⟩
  | succ upTo hle ih =>
    obtain ⟨before, hbefore, hstep⟩ := bind_eq_ok h
    obtain ⟨state, hstate, htrades, hequity⟩ := ih hbefore
    obtain ⟨⟨emitted, hemitted, hclosed⟩, point, hpoint, hinstant⟩ :=
      simulateBar_extends hkeyed hstep
    obtain ⟨later, hlater, hspread⟩ := htrades
    obtain ⟨points, hpoints, hmarked⟩ := hequity
    refine ⟨state, hstate, ⟨later ++ emitted, by rw [hemitted, hlater]; simp, ?_⟩,
      ⟨points ++ [point], by rw [hpoint, hpoints]; simp, ?_⟩⟩
    · refine forall_mem_append.mpr ⟨fun trade htrade => ?_, fun trade htrade => ?_⟩
      · obtain ⟨offset, hfrom, hto, hon⟩ := hspread trade htrade
        exact ⟨offset, hfrom, by omega, hon⟩
      · exact ⟨upTo, hle, by omega, hclosed trade htrade⟩
    · refine forall_mem_append.mpr ⟨fun other hother => ?_, forall_mem_singleton.mpr ?_⟩
      · obtain ⟨offset, hfrom, hto, hon⟩ := hmarked other hother
        exact ⟨offset, hfrom, by omega, hon⟩
      · exact ⟨upTo, hle, by omega, hinstant⟩

end

/-! ## What a result shows of the closed bars -/

section

variable {sim : Simulation} {closedBy : Time}

/-- The bars of the evaluation that have closed by then. -/
def Simulation.closedBars (sim : Simulation) (closedBy : Time) : Nat :=
  min sim.evaluationBars ((closedBy - sim.startsAt) / sim.bar).toNat

theorem lt_closedBars_iff (hbar : 0 < sim.bar) :
    offset < sim.closedBars closedBy ↔
      offset < sim.evaluationBars ∧ sim.barStart offset + sim.bar ≤ closedBy := by
  have hcount : ((offset : Int) + 1 ≤ (closedBy - sim.startsAt) / sim.bar) ↔
      sim.barStart offset + sim.bar ≤ closedBy := by
    rw [Int.le_ediv_iff_mul_le hbar, barStart]
    constructor
    · intro h
      linarith
    · intro h
      linarith
  rw [closedBars, lt_min_iff, lt_toNat, ← hcount, add_one_le_iff]

/-- A trade that closed on a bar closed by an instant, other than by the close-out. -/
def ClosedTrade (strategy : StrategyDefinition) (closedBy : Time) (trade : BacktestTrade) : Prop :=
  BarClosed strategy closedBy trade.exit.candleStartsAt ∧ trade.exit.reason ≠ .evaluationEnd

instance (strategy : StrategyDefinition) : DecidablePred (ClosedTrade strategy closedBy) :=
  fun _ => instDecidableAnd

def ClosedPoint (specification : ResearchRunSpecification) (strategy : StrategyDefinition)
    (closedBy : Time) (point : EquityPoint) : Prop :=
  point.candleStartsAt < specification.evaluation.endsAt ∧
    BarClosed strategy closedBy point.candleStartsAt

instance (specification : ResearchRunSpecification) (strategy : StrategyDefinition) :
    DecidablePred (ClosedPoint specification strategy closedBy) :=
  fun _ => instDecidableAnd

theorem closeOutBooks_trades {feeds : List BookFeed} {books' : List Book}
    (h : closeOutBooks sim feeds books account = .ok (books', account')) :
    ∃ closed, account'.trades = account.trades ++ closed ∧
      ∀ trade ∈ closed, trade.exit.reason = .evaluationEnd := by
  induction feeds generalizing books books' account with
  | nil =>
    cases h
    exact ⟨[], by simp, by simp⟩
  | cons _ _ ih =>
    cases books with
    | nil =>
      cases h
      exact ⟨[], by simp, by simp⟩
    | cons =>
      obtain ⟨desk, hdesk, h⟩ := bind_eq_ok h
      obtain ⟨⟨others, final⟩, hothers, h⟩ := bind_eq_ok h
      cases h
      obtain ⟨closed, hclosed, hreasons⟩ := ih hothers
      cases closeOutBook_cases hdesk with
      | flat => exact ⟨closed, hclosed, hreasons⟩
      | @sells position candle trade cash _ _ hsold =>
        refine ⟨trade :: closed, by rw [hclosed]; simp, ?_⟩
        intro other hother
        rcases mem_cons.mp hother with rfl | hother
        · exact (closePosition_exit hsold).2
        · exact hreasons other hother

theorem filter_append_split {α : Type} {keep : α → Prop} [DecidablePred keep] {kept dropped : List α}
    (hkept : ∀ entry ∈ kept, keep entry) (hdropped : ∀ entry ∈ dropped, ¬ keep entry) :
    (kept ++ dropped).filter (fun entry => keep entry) = kept := by
  rw [filter_append, filter_eq_self.mpr (by simpa using hkept),
    filter_eq_nil_iff.mpr (by simpa using hdropped), append_nil]

theorem runSimulation_observed {specification : ResearchRunSpecification}
    {strategy : StrategyDefinition} (hduration : sim.bar = strategy.timeframe.duration)
    (hwindow : sim.endsAt = specification.evaluation.endsAt) (hkeyed : sim.Keyed)
    (hgrid : ∀ offset < sim.evaluationBars, sim.barStart offset < sim.endsAt)
    (h : runSimulation sim = .ok final) :
    ∃ state, runBars sim (sim.closedBars closedBy) = .ok state ∧
      final.trades.filter (fun trade => ClosedTrade strategy closedBy trade) = state.trades ∧
      final.equityCurve.filter (fun point => ClosedPoint specification strategy closedBy point) =
        state.equityCurve := by
  have hbar : 0 < sim.bar := hduration ▸ strategy.timeframe.duration_pos
  obtain ⟨last, hlast, h⟩ := bind_eq_ok h
  obtain ⟨⟨books, account⟩, hclose, h⟩ := bind_eq_ok h
  obtain ⟨point, hpoint, rfl⟩ := bind_pure_ok h
  obtain ⟨rows, -, rfl⟩ := bind_pure_ok hpoint
  obtain ⟨ends, hends, hreasons⟩ := closeOutBooks_trades hclose
  have hcount : sim.closedBars closedBy ≤ sim.evaluationBars := min_le_left _ _
  obtain ⟨state, hstate, ⟨later, hlater, hlaterOn⟩, points, hpoints, hpointsOn⟩ :=
    runBars_extends hkeyed hcount hlast
  -- everything the state holds was added by its own bars
  obtain ⟨initial, hinitial, ⟨trades, htrades, htradesOn⟩, marks, hmarks, hmarksOn⟩ :=
    runBars_extends hkeyed (Nat.zero_le _) hstate
  cases hinitial
  replace htrades : state.trades = trades := htrades
  replace hmarks : state.equityCurve = marks := hmarks
  refine ⟨state, hstate, ?_, ?_⟩
  · have hsplit : account.trades = state.trades ++ (later ++ ends) := by
      rw [hends, hlater, append_assoc]
    rw [hsplit]
    apply filter_append_split
    · intro trade htrade
      obtain ⟨offset, -, hoffset, hon⟩ := htradesOn trade (htrades ▸ htrade)
      refine ⟨?_, hon.reason⟩
      rw [BarClosed, hon.exit, ← hduration]
      exact ((lt_closedBars_iff hbar).mp hoffset).2
    · intro trade htrade hobserved
      rcases mem_append.mp htrade with htrade | htrade
      · obtain ⟨offset, hfrom, hoffset, hon⟩ := hlaterOn trade htrade
        have hclosed := hobserved.1
        rw [BarClosed, hon.exit, ← hduration] at hclosed
        have := (lt_closedBars_iff hbar).mpr ⟨hoffset, hclosed⟩
        omega
      · exact hobserved.2 (hreasons trade htrade)
  · show (last.equityCurve ++ _).filter _ = _
    rw [hpoints, append_assoc]
    apply filter_append_split
    · intro mark hmark
      obtain ⟨offset, -, hoffset, hon⟩ := hmarksOn mark (hmarks ▸ hmark)
      obtain ⟨hevaluated, hclosed⟩ := (lt_closedBars_iff hbar).mp hoffset
      refine ⟨?_, ?_⟩
      · rw [hon, ← hwindow]
        exact hgrid offset hevaluated
      · rw [BarClosed, hon, ← hduration]
        exact hclosed
    · intro mark hmark hobserved
      rcases mem_append.mp hmark with hmark | hmark
      · obtain ⟨offset, hfrom, hoffset, hon⟩ := hpointsOn mark hmark
        have hclosed := hobserved.2
        rw [BarClosed, hon, ← hduration] at hclosed
        have := (lt_closedBars_iff hbar).mpr ⟨hoffset, hclosed⟩
        omega
      · -- the terminal mark stands on the end of the window
        obtain rfl := mem_singleton.mp hmark
        exact lt_irrefl _ (hwindow ▸ hobserved.1)

end

/-! ## The feeds of two accepted runs -/

section

variable {engine : Engine} {specification : ResearchRunSpecification}
  {strategy : StrategyDefinition} {closedBy : Time}

theorem barInterval_spec (h : barInterval specification strategy = .ok interval) :
    interval = strategy.timeframe ∧
      specification.warmup.startsAt ≤ specification.evaluation.startsAt := by
  obtain ⟨declared, hdeclared, h⟩ := bind_eq_ok h
  unfold specificationBarInterval at hdeclared
  simp only at hdeclared
  split at hdeclared
  · cases hdeclared
  next found hfound =>
    have hspan : specification.evaluation.startsAt - specification.warmup.startsAt =
        found.duration * specification.warmup.bars := by simpa using find?_some hfound
    have hwarmup : 0 ≤ found.duration * (specification.warmup.bars : Int) :=
      mul_nonneg found.duration_pos.le (natCast_nonneg _)
    refine ⟨?_, by linarith⟩
    simp only at h
    split at h
    · exact absurd h throw_bind_ne_ok
    · split at h
      · exact absurd h throw_bind_ne_ok
      · exact (Except.ok.inj h).symm

variable {start : Time}

theorem candleMap_agree {first second selected selected' : List Candle}
    {mapped mapped' : Dict Time Candle}
    (hagree : AgreeUntil closedBy strategy.timeframe.duration first second)
    (hselected : requiredCandles specification first = .ok selected)
    (hselected' : requiredCandles specification second = .ok selected')
    (hwindow : specification.warmup.startsAt ≤ start ∧ start < specification.evaluation.endsAt)
    (hclosed : BarClosed strategy closedBy start)
    (h : candleMap specification first interval = .ok mapped)
    (h' : candleMap specification second interval = .ok mapped') :
    mapped.get? start = mapped'.get? start := by
  -- the trace's own selection says that a start of the window has one candle
  have hunique : ∀ {candles chosen : List Candle},
      requiredCandles specification candles = .ok chosen →
      ∀ a ∈ candles.filter (fun candle => specification.warmup.startsAt ≤ candle.startsAt ∧
          candle.startsAt < specification.evaluation.endsAt + interval.duration),
        ∀ b ∈ candles.filter (fun candle => specification.warmup.startsAt ≤ candle.startsAt ∧
          candle.startsAt < specification.evaluation.endsAt + interval.duration),
        a.startsAt = start → b.startsAt = start → a = b := by
    intro candles chosen hchosen a ha b hb hastart hbstart
    obtain ⟨-, -, -, hmem⟩ := requiredCandles_spec hchosen
    exact requiredCandles_unique hchosen
      ((hmem a).mpr ⟨(mem_filter.mp ha).1, hastart ▸ hwindow⟩)
      ((hmem b).mpr ⟨(mem_filter.mp hb).1, hbstart ▸ hwindow⟩) (hastart.trans hbstart.symm)
  rw [(candleMap_eq_ok h).1, (candleMap_eq_ok h').1]
  apply Option.ext
  intro candle
  unfold candlesByStart
  rw [Dict.get?_foldl_set_eq_some_iff _ (hunique hselected),
    Dict.get?_foldl_set_eq_some_iff _ (hunique hselected'), mem_filter, mem_filter]
  constructor
  · rintro ⟨⟨hmem, hin⟩, rfl⟩
    exact ⟨⟨(hagree candle hclosed).mp hmem, hin⟩, rfl⟩
  · rintro ⟨⟨hmem, hin⟩, rfl⟩
    exact ⟨⟨(hagree candle hclosed).mpr hmem, hin⟩, rfl⟩

variable {trace : SignalTrace}

theorem evaluateTraces_spec {productIds : List String}
    (h : evaluateTraces engine specification strategy history productIds traces = .ok traces')
    (hfound : traces'.get? productId = some trace) :
    productTrace engine specification strategy history productId = .ok trace ∨
      traces.get? productId = some trace := by
  induction productIds generalizing traces with
  | nil =>
    cases h
    exact .inr hfound
  | cons _ _ ih =>
    obtain ⟨evaluated, hevaluated, h⟩ := bind_eq_ok h
    rcases ih h with htrace | hset
    · exact .inl htrace
    · obtain ⟨hsame, rfl⟩ | ⟨-, hset⟩ := Dict.get?_set_cases rfl hset
      · exact .inl (hsame ▸ hevaluated)
      · exact .inr hset

theorem productTrace_inv
    (h : productTrace engine specification strategy history productId = .ok trace) :
    (history.candlesByProduct strategy).get? productId =
        some (history.product strategy productId).decision ∧
      evaluateSignalTrace engine specification strategy (history.product strategy productId)
        history.referenceCandles = .ok trace := by
  obtain ⟨decision, hdecision, h⟩ := bind_eq_ok h
  have hfound := lookup_eq_ok.mp hdecision
  have hproduct : history.product strategy productId =
      history.productCandles strategy productId decision := by
    rw [History.product, hfound, Option.getD_some]
  rw [hproduct]
  exact ⟨hfound, signalInputs_eq_ok h⟩

theorem bookFeed_keyed {candlesByProduct : Dict String (List Candle)}
    (h : bookFeed specification interval candlesByProduct traces productId = .ok feed)
    (hfound : feed.candleByStart.get? start = some candle) :
    candle.startsAt = start := by
  obtain ⟨candles, trace, -, hmap, -, -⟩ := bookFeed_inv h
  rw [(candleMap_eq_ok hmap).1] at hfound
  exact (startsAt_of_candlesByStart hfound).2

theorem bookFeed_agreesAt {feed' : BookFeed}
    (hagree : history.AgreeUntil strategy closedBy history')
    (hproduct : productId ∈ lockstepProductIds strategy)
    (htraces : evaluateTraces engine specification strategy history (lockstepProductIds strategy)
      .empty = .ok traces)
    (htraces' : evaluateTraces engine specification strategy history' (lockstepProductIds strategy)
      .empty = .ok traces')
    (hwindow : specification.warmup.startsAt ≤ start ∧ start < specification.evaluation.endsAt)
    (hclosed : BarClosed strategy closedBy start)
    (h : bookFeed specification interval (history.candlesByProduct strategy) traces productId = .ok
      feed)
    (h' : bookFeed specification interval (history'.candlesByProduct strategy) traces' productId =
      .ok feed') : FeedAgreesAt start feed feed' := by
  obtain ⟨candles, trace, hcandles, hmap, htrace, hrecords⟩ := bookFeed_inv h
  obtain ⟨candles', trace', hcandles', hmap', htrace', hrecords'⟩ := bookFeed_inv h'
  obtain ⟨hdecision, hevaluated⟩ := productTrace_inv
    ((evaluateTraces_spec htraces htrace).resolve_right (by simp))
  obtain ⟨hdecision', hevaluated'⟩ := productTrace_inv
    ((evaluateTraces_spec htraces' htrace').resolve_right (by simp))
  cases hcandles.symm.trans hdecision
  cases hcandles'.symm.trans hdecision'
  obtain ⟨selected, -, hselected, -, -⟩ := evaluateSignalTrace_inv hevaluated
  obtain ⟨selected', -, hselected', -, -⟩ := evaluateSignalTrace_inv hevaluated'
  have hproducts := hagree.products productId hproduct
  refine ⟨candleMap_agree hproducts.decision hselected hselected' hwindow hclosed hmap hmap', ?_,
    fun candle hfound => bookFeed_keyed h hfound⟩
  have hmatches := evaluateSignalTrace_matches hproducts hagree.references hevaluated hevaluated'
  rw [hrecords, hrecords']
  refine Dict.get?_foldl_set_congr (fun record : SignalTraceRecord => record.candleStartsAt) id
    (hmatches.imp ?_) rfl
  intro record record' hrecord
  refine ⟨hrecord.1, ?_⟩
  rintro rfl
  exact hrecord.2 hclosed

end

/-! ## Two accepted runs -/

section

variable {engine : Engine} {specification : ResearchRunSpecification}
  {strategy : StrategyDefinition} {closedBy : Time}
variable {sim' : Simulation}

section

variable {sim : Simulation}
  (h : prepareSimulation specification strategy candles traces futures = .ok sim)
include h

theorem prepareSimulation_withFeeds {candles' : Dict String (List Candle)}
    (h' : prepareSimulation specification strategy candles' traces' futures = .ok sim') :
    sim' = { sim with feeds := sim'.feeds } := by
  obtain ⟨interval, hinterval, h⟩ := bind_eq_ok h
  obtain ⟨feeds, -, h⟩ := bind_eq_ok h
  obtain ⟨interval', hinterval', h'⟩ := bind_eq_ok h'
  obtain ⟨feeds', -, h'⟩ := bind_eq_ok h'
  cases hinterval.symm.trans hinterval'
  cases h
  cases h'
  rfl

theorem prepareSimulation_grid (hoffset : offset < sim.evaluationBars) :
    sim.barStart offset < sim.endsAt := by
  obtain ⟨interval, -, h⟩ := bind_eq_ok h
  obtain ⟨feeds, -, rfl⟩ := bind_pure_ok h
  have hspan : 0 ≤ specification.evaluation.endsAt - specification.evaluation.startsAt := by
    have hnonempty := specification.evaluation.nonempty
    have hminute : (0 : Int) < minuteLength := by decide
    linarith
  simp only [tdiv_eq_ediv_of_nonneg hspan, lt_toNat] at hoffset
  have hbars := (Int.le_ediv_iff_mul_le interval.duration_pos).mp (Int.add_one_le_iff.mpr hoffset)
  have hbar := interval.duration_pos
  simp only [barStart]
  linarith

end

theorem prepareSimulation_trace {sim : Simulation}
    (htraces : evaluateTraces engine specification strategy history (lockstepProductIds strategy)
      .empty = .ok traces)
    (h : prepareSimulation specification strategy (history.candlesByProduct strategy) traces futures
      = .ok sim) (hproduct : productId ∈ lockstepProductIds strategy) :
    ∃ trace, productTrace engine specification strategy history productId = .ok trace := by
  obtain ⟨interval, -, hfeeds, -⟩ := prepareSimulation_spec h
  obtain ⟨feed, -, hfeed⟩ := mapM_ok_of_mem hfeeds hproduct
  obtain ⟨candles, trace, -, -, htrace, -⟩ := bookFeed_inv hfeed
  exact ⟨trace, (evaluateTraces_spec htraces htrace).resolve_right (by simp)⟩

variable {sim : Simulation}

theorem prepareSimulation_keyed
    (h : prepareSimulation specification strategy candles traces futures = .ok sim) :
    sim.Keyed := by
  obtain ⟨interval, -, hfeeds, -⟩ := prepareSimulation_spec h
  intro feed hfeed start candle hfound
  obtain ⟨productId, -, hbook⟩ := mapM_mem hfeeds hfeed
  exact bookFeed_keyed hbook hfound

theorem backtestSimulation_runBars {fundingRates : Option (Dict Time Decimal)}
    (hagree : history.AgreeUntil strategy closedBy history')
    (h : backtestSimulation engine specification strategy history fundingRates = .ok sim)
    (h' : backtestSimulation engine specification strategy history' fundingRates = .ok sim') :
    sim' = { sim with feeds := sim'.feeds } ∧ sim.bar = strategy.timeframe.duration ∧
      sim.startsAt = specification.evaluation.startsAt ∧
      ∀ bars ≤ sim.evaluationBars, (∀ offset < bars, sim.barStart offset + sim.bar ≤ closedBy) →
        runBars sim bars = runBars sim' bars := by
  obtain ⟨futures, traces, hterms, htraces, hprepare⟩ := backtestSimulation_inv h
  obtain ⟨futures', traces', hterms', htraces', hprepare'⟩ := backtestSimulation_inv h'
  cases hterms.symm.trans hterms'
  have hsame := prepareSimulation_withFeeds hprepare hprepare'
  obtain ⟨interval, hinterval, hfeeds, -, hbar, hstarts, hends⟩ := prepareSimulation_spec hprepare
  obtain ⟨interval', hinterval', hfeeds', -⟩ := prepareSimulation_spec hprepare'
  cases hinterval.symm.trans hinterval'
  obtain ⟨hclock, hwarmup⟩ := barInterval_spec hinterval
  have hduration : sim.bar = strategy.timeframe.duration := by rw [hbar, hclock]
  refine ⟨hsame, hduration, hstarts, ?_⟩
  intro bars hbars hclosed
  -- every bar before `bars` opens in the window and has closed
  have hagrees : ∀ offset < bars,
      List.Forall₂ (FeedAgreesAt (sim.barStart offset)) sim.feeds sim'.feeds := by
    intro offset hoffset
    have hafter : specification.warmup.startsAt ≤ sim.barStart offset := by
      have hstep : 0 ≤ sim.bar * (offset : Int) := by
        rw [hduration]
        exact mul_nonneg strategy.timeframe.duration_pos.le (natCast_nonneg _)
      rw [barStart, hstarts]
      linarith
    have hbefore : sim.barStart offset < specification.evaluation.endsAt := by
      rw [← hends]
      exact prepareSimulation_grid hprepare (by omega)
    have hbarClosed : BarClosed strategy closedBy (sim.barStart offset) := by
      rw [BarClosed, ← hduration]
      exact hclosed offset hoffset
    refine mapM_forall₂ hfeeds hfeeds' ?_
    intro productId hproduct feed feed' hfeed hfeed'
    exact bookFeed_agreesAt hagree hproduct htraces htraces' ⟨hafter, hbefore⟩ hbarClosed hfeed
      hfeed'
  have hlength : sim'.feeds.length = sim.feeds.length := by
    rw [← (mapM_eq_ok hfeeds).length_eq, (mapM_eq_ok hfeeds').length_eq]
  rw [hsame]
  exact runBars_congr hlength hagrees

/-- Two accepted backtests of one request over histories that agree on every bar closed by an
instant have, for the evaluation bars closed by then, the same trace records, the same states (cash,
resting entries, positions, closed trades), the same reported trades other than end-of-data closes,
and the same equity points. -/
theorem simulateBacktest_noLookahead {history history' : History}
    {fundingRates : Option (Dict Time Decimal)} {result result' : BacktestResult}
    (hagree : history.AgreeUntil strategy closedBy history')
    (h : simulateBacktest engine specification strategy history fundingRates = .ok result)
    (h' : simulateBacktest engine specification strategy history' fundingRates = .ok result') :
    (∀ productId ∈ lockstepProductIds strategy, ∃ trace trace',
      productTrace engine specification strategy history productId = .ok trace ∧
      productTrace engine specification strategy history' productId = .ok trace' ∧
      trace.records.filter (fun record => BarClosed strategy closedBy record.candleStartsAt) =
        trace'.records.filter (fun record => BarClosed strategy closedBy record.candleStartsAt)) ∧
    (∃ sim sim',
      backtestSimulation engine specification strategy history fundingRates = .ok sim ∧
      backtestSimulation engine specification strategy history' fundingRates = .ok sim' ∧
      sim'.evaluationBars = sim.evaluationBars ∧
      ∀ bars ≤ sim.evaluationBars,
        specification.evaluation.startsAt + strategy.timeframe.duration * bars ≤ closedBy →
        ∃ state, runBars sim bars = .ok state ∧ runBars sim' bars = .ok state) ∧
    result.trades.filter (fun trade => ClosedTrade strategy closedBy trade) =
      result'.trades.filter (fun trade => ClosedTrade strategy closedBy trade) ∧
    result.equityCurve.filter (fun point => ClosedPoint specification strategy closedBy point) =
      result'.equityCurve.filter (fun point => ClosedPoint specification strategy closedBy point) := by
  obtain ⟨sim, final, hsim, hfinal, htrades, hcurve, -, -⟩ := simulateBacktest_run h
  obtain ⟨sim', final', hsim', hfinal', htrades', hcurve', -, -⟩ := simulateBacktest_run h'
  obtain ⟨hsame, hbar, hstarts, hruns⟩ := backtestSimulation_runBars hagree hsim hsim'
  obtain ⟨futures, traces, -, htraces, hprepare⟩ := backtestSimulation_inv hsim
  obtain ⟨futures', traces', -, htraces', hprepare'⟩ := backtestSimulation_inv hsim'
  obtain ⟨interval, -, -, -, -, -, hends⟩ := prepareSimulation_spec hprepare
  have hpositive : 0 < sim.bar := hbar ▸ strategy.timeframe.duration_pos
  have hbars : sim'.evaluationBars = sim.evaluationBars := by rw [hsame]
  refine ⟨?_, ⟨sim, sim', hsim, hsim', hbars, ?_⟩, ?_⟩
  · intro productId hproduct
    obtain ⟨trace, htrace⟩ := prepareSimulation_trace htraces hprepare hproduct
    obtain ⟨trace', htrace'⟩ := prepareSimulation_trace htraces' hprepare' hproduct
    refine ⟨trace, trace', htrace, htrace', ?_⟩
    exact (evaluateSignalTrace_matches (hagree.products productId hproduct) hagree.references
      (productTrace_inv htrace).2 (productTrace_inv htrace').2).filter_eq
  · intro bars hle hclosed
    obtain ⟨last, hlast, -⟩ := bind_eq_ok hfinal
    obtain ⟨state, hstate, -⟩ := runBars_extends (prepareSimulation_keyed hprepare) hle hlast
    have hequal := hruns bars hle (by
      intro offset hoffset
      have hstep : sim.bar * ((offset : Int) + 1) ≤ sim.bar * (bars : Int) :=
        mul_le_mul_of_nonneg_left (by exact_mod_cast hoffset) hpositive.le
      rw [barStart, hstarts]
      rw [← hbar] at hclosed
      linarith)
    exact ⟨state, hstate, hequal ▸ hstate⟩
  · obtain ⟨state, hstate, hobserved⟩ := runSimulation_observed hbar hends
      (prepareSimulation_keyed hprepare) (fun _ => prepareSimulation_grid hprepare) hfinal
    obtain ⟨state', hstate', hobserved'⟩ := runSimulation_observed (by rw [hsame]; exact hbar)
      (by rw [hsame]; exact hends) (prepareSimulation_keyed hprepare')
      (fun _ => prepareSimulation_grid hprepare') hfinal'
    have hcount : sim'.closedBars closedBy = sim.closedBars closedBy := by rw [hsame]; rfl
    have hequal := hruns (sim.closedBars closedBy) (min_le_left _ _)
      (fun offset hoffset => ((lt_closedBars_iff hpositive).mp hoffset).2)
    rw [hcount, ← hequal, hstate] at hstate'
    cases hstate'
    rw [htrades, htrades', hcurve, hcurve', hobserved.1, hobserved'.1, hobserved.2, hobserved'.2]
    exact ⟨rfl, rfl⟩

end

def hourlyHistoryRevised : History where
  candles := [hourlyBar 0 100, hourlyBar 1 101, hourlyBar 2 100, hourlyBar 3 101, hourlyBar 4 99,
    hourlyBar 5 104]

/-- The two histories agree until the third bar opens. -/
theorem hourlyHistory_agree :
    hourlyHistory.AgreeUntil hourlyStrategy (oneHour.duration * 4)
      hourlyHistoryRevised := by
  refine ⟨?_, by rintro reference ⟨⟩⟩
  intro productId hproduct
  obtain rfl : productId = "BTC-USDC" := by
    simpa [lockstepProductIds, coveredProductIds, hourlyStrategy] using hproduct
  refine ⟨?_, by rintro filter ⟨⟩, ?_⟩
  · intro candle hclosed
    have hdecision : ∀ history : History,
        (history.product hourlyStrategy "BTC-USDC").decision = history.candles := by
      simp [History.product, History.productCandles, History.candlesByProduct, hourlyStrategy]
    rw [hdecision, hdecision]
    -- a bar that differs opens at the fourth hour or later
    have hopen : ∀ index : Nat, 4 ≤ index → ∀ close, candle ≠ hourlyBar index close := by
      rintro index hindex close rfl
      have hlate : oneHour.duration * 4 ≤ (hourlyBar index close).startsAt :=
        mul_le_mul_of_nonneg_left (by exact_mod_cast hindex) (by decide)
      have hhour : 0 < hourlyStrategy.timeframe.duration := by decide
      linarith
    simp only [hourlyHistory, hourlyHistoryRevised, mem_cons, not_mem_nil, or_false,
      hopen 4 (by decide), hopen 5 (by decide)]
  · intro timeframe
    exact .none

theorem hourlyHistory_noLookahead :
    ∃ result result',
      simulateBacktest hourlyEngine hourlySpecification hourlyStrategy hourlyHistory none =
        .ok result ∧
      simulateBacktest hourlyEngine hourlySpecification hourlyStrategy hourlyHistoryRevised none =
        .ok result' ∧
      result.equityCurve.filter (fun point => ClosedPoint hourlySpecification hourlyStrategy
          (oneHour.duration * 4) point) =
        result'.equityCurve.filter (fun point => ClosedPoint hourlySpecification hourlyStrategy
          (oneHour.duration * 4) point) := by
  obtain ⟨result, hrun⟩ := exists_eq_ok (show (simulateBacktest hourlyEngine hourlySpecification
    hourlyStrategy hourlyHistory none).toOption.isSome = true by decide +kernel)
  obtain ⟨result', hrun'⟩ := exists_eq_ok (show (simulateBacktest hourlyEngine hourlySpecification
    hourlyStrategy hourlyHistoryRevised none).toOption.isSome = true by decide +kernel)
  obtain ⟨-, -, -, hequity⟩ := simulateBacktest_noLookahead hourlyHistory_agree hrun hrun'
  exact ⟨result, result', hrun, hrun', hequity⟩

end Thytrader.Backtest
