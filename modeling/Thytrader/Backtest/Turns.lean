import Thytrader.Backtest.Simulation

/-!
# What one product's turn can do

The kernel reaches a bar's outcome through some twenty branches. This file says once what those
branches can leave behind: matching a resting entry ends in one of six ways (`EntryMatch`), managing
an open position in one of three (`ExitOutcome`), resting an entry at the close in one of four
(`EntryRest`). A turn is a sequence of such steps (`TurnStep`); the induction over turns and bars is
`reachable_invariant`.
-/

namespace Thytrader.Backtest

open Lib MarketData Strategies Trading Evaluation List Except

variable {position : Position} {limitPrice : Decimal} {feeds : List BookFeed} {books : List Book}
  {account account' : Account} {bars : Nat}

/-! ## Resting entries -/

def stressedEntry (stress : Option ExecutionStress) (pending : PendingEntry) : PendingEntry :=
  match stress with
  | none => pending
  | some stress => { pending with quantity := pending.quantity * stress.entryFillFraction }

theorem stressedEntry_side (stress : Option ExecutionStress) (pending : PendingEntry) :
    (stressedEntry stress pending).side = pending.side := by
  cases stress <;> rfl

/-- The bars an entry waits before it may fill. -/
def entryLatency (costs : Costs) : Nat := costs.executionStress.elim 0 (·.entryLatencyBars)

def staysResting (pending : PendingEntry) (candle : Candle) (strategy : StrategyDefinition)
    (costs : Costs) : Bool :=
  if pending.waitedBars < entryLatency costs then true
  else if makerTouched candle.high candle.low pending.limitPrice (pending.side = .long)
      costs.executionStress then false
  else if ((pending.waitedBars + 1 : Nat) : Int) - entryLatency costs <
      strategy.execution.maxEntryWaitBars.value then true
  else
    match strategy.execution.onUnfilledEntry with
    | .cancel => false
    | .reprice => targetGuardAllows strategy.entry.economicGuard pending.side candle.close
        pending.targetPrice costs.makerFeeRate = .ok true

/-- What matching a resting entry can leave. -/
inductive EntryMatch (desk : Desk) (candle : Candle) (offset : Nat) (strategy : StrategyDefinition)
    (costs : Costs) : Desk → Prop where
  | idle (h : ∀ pending ∈ desk.book.pending,
      desk.book.position.isSome ∧ pending.isPyramidAdd = false) :
      EntryMatch desk candle offset strategy costs desk
  | waits {pending : PendingEntry} (hpending : desk.book.pending = some pending)
      (hstays : staysResting pending candle strategy costs = true) (waitedBars : Nat) :
      EntryMatch desk candle offset strategy costs { desk with book := { desk.book with
        pending := some { pending with waitedBars := waitedBars } } }
  | reprices {pending : PendingEntry} (hpending : desk.book.pending = some pending)
      (hstays : staysResting pending candle strategy costs = true) :
      EntryMatch desk candle offset strategy costs { desk with
        book := { desk.book with
          pending := some { pending with
            limitPrice := candle.close, waitedBars := entryLatency costs } }
        tally := { desk.tally with entriesRepriced := desk.tally.entriesRepriced + 1 } }
  | expires {pending : PendingEntry} (hpending : desk.book.pending = some pending) :
      EntryMatch desk candle offset strategy costs (expireEntry desk strategy)
  | refuses {pending : PendingEntry} (hpending : desk.book.pending = some pending)
      (hfill : fillPosition desk.book.position (stressedEntry costs.executionStress pending) candle
        desk.cash offset costs = .ok none) :
      EntryMatch desk candle offset strategy costs { desk with
        book := { desk.book with pending := none }
        tally := { desk.tally with entriesRefusedAtFill := desk.tally.entriesRefusedAtFill + 1 } }
  | fills {pending : PendingEntry} {position : Position} {cash : Decimal}
      (hpending : desk.book.pending = some pending)
      (hfill : fillPosition desk.book.position (stressedEntry costs.executionStress pending) candle
        desk.cash offset costs = .ok (some (position, cash))) :
      EntryMatch desk candle offset strategy costs { desk with
        book := { desk.book with pending := none, position := some position }
        cash := cash
        tally := { desk.tally with entriesFilled := desk.tally.entriesFilled + 1 } }

variable {desk desk' : Desk} {offset : Nat}

theorem matchEntry_cases {candle : Candle} {strategy : StrategyDefinition} {costs : Costs}
    (h : matchEntry desk candle offset strategy costs = .ok desk') :
    EntryMatch desk candle offset strategy costs desk' := by
  unfold matchEntry at h
  split at h
  next hnone =>
    cases h
    exact .idle (by simp [hnone])
  next pending hpending =>
    split at h
    next hheld =>
      cases h
      exact .idle (by simpa [hpending] using hheld)
    · simp only at h
      split at h
      next hlatent =>
        cases h
        refine .waits hpending ?_ _
        rw [staysResting, if_pos (show pending.waitedBars < entryLatency costs from hlatent)]
      next hlive =>
        have hlive' : ¬ pending.waitedBars < entryLatency costs := hlive
        split at h
        next =>
          -- touched: the fill opens, scales or is refused
          obtain ⟨filled, hfill, h⟩ := bind_eq_ok h
          rcases filled with _ | ⟨position, cash⟩
          · cases h
            exact .refuses hpending hfill
          · cases h
            exact .fills hpending hfill
        next hmiss =>
          split at h
          next hwait =>
            cases h
            refine .waits hpending ?_ _
            have hwait' : ((pending.waitedBars + 1 : Nat) : Int) - entryLatency costs <
              strategy.execution.maxEntryWaitBars.value := hwait
            rw [staysResting, if_neg hlive', if_neg hmiss, if_pos hwait']
          next hdone =>
            have hdone' : ¬ ((pending.waitedBars + 1 : Nat) : Int) - entryLatency costs <
              strategy.execution.maxEntryWaitBars.value := hdone
            split at h
            · cases h
              exact .expires hpending
            next hreprice =>
              obtain ⟨allowed, hallowed, h⟩ := bind_eq_ok h
              split at h
              · cases h
                exact .expires hpending
              next hguard =>
                cases h
                refine .reprices hpending ?_
                rw [staysResting, if_neg hlive', if_neg hmiss, if_neg hdone', hreprice]
                simpa [hallowed] using hguard

/-! ## Exits -/

/-- How an exit is priced: at the resting target as a maker, else at a raw reference as a
taker. -/
inductive ExitQuote (position : Position) (candle : Candle) (costs : Costs) :
    FillQuote → Decimal → Prop where
  | target {target : Decimal} (htarget : position.targetPrice = some target) :
      ExitQuote position candle costs (costs.fillModel.maker target) costs.makerFeeRate
  | stop {reference : Decimal} (hreference : stopReference position candle costs = .ok reference) :
      ExitQuote position candle costs (takerExitQuote position reference costs) costs.takerFeeRate
  | market {reference : Decimal}
      (hreference : reference ∈ [candle.open_, candle.high, candle.low, candle.close]) :
      ExitQuote position candle costs (takerExitQuote position reference costs) costs.takerFeeRate

def exitDue (feed : BookFeed) (position : Position) (candle : Candle) (offset : Nat)
    (strategy : StrategyDefinition) (costs : Costs) : Bool :=
  stopHit position candle costs.fillModel ||
    (position.takeProfitResting && position.targetPrice.any (fun target =>
      makerTouched candle.high candle.low target (position.side = .short) costs.executionStress)) ||
    (offset ≠ position.enteredBarIndex && signalExitMatched (feed.records.get? candle.startsAt)) ||
    (strategy.exits.maxBarsHeld : Int) ≤ offset - position.enteredBarIndex

/-- What managing an open position can leave. A trail moves only the stop before the
position is closed or armed. -/
inductive ExitOutcome (feed : BookFeed) (book : Book) (candle : Candle) (offset : Nat)
    (strategy : StrategyDefinition) (costs : Costs) (cash : Decimal) (bar : Duration) :
    Closing → Prop where
  | flat (hflat : book.position = none) :
      ExitOutcome feed book candle offset strategy costs cash bar ⟨none, cash, book⟩
  | arms {position trailed : Position} {isFillBar : Bool} (hheld : book.position = some position)
      (htrail : trailPosition position candle strategy (feed.records.get? candle.startsAt)
        isFillBar = .ok trailed) :
      ExitOutcome feed book candle offset strategy costs cash bar
        ⟨none, cash, { book with position := some { trailed with takeProfitResting := true } }⟩
  | closes {held position : Position} {quote : FillQuote} {reason : ExitReason}
      {feeRate cash' : Decimal} {trade : BacktestTrade} (hheld : book.position = some held)
      (hposition : position = held ∨ ∃ isFillBar, trailPosition held candle strategy
        (feed.records.get? candle.startsAt) isFillBar = .ok position)
      (hdue : costs.futures.isSome ∨ exitDue feed held candle offset strategy costs = true)
      (hquote : ExitQuote position candle costs quote feeRate)
      (hreason : reason ≠ .evaluationEnd)
      (hclose : closePosition position candle cash quote reason feeRate bar = .ok (trade, cash')) :
      ExitOutcome feed book candle offset strategy costs cash bar
        ⟨some trade, cash', { book with position := none }⟩

section

variable {feed : BookFeed} {book : Book} {candle : Candle} {offset : Nat}
  {strategy : StrategyDefinition} {costs : Costs} {cash : Decimal} {bar : Duration}
  {closing : Closing}

/-- The trail moves the stop and nothing else. -/
theorem trailPosition_frame {trailed : Position} {record : Option SignalTraceRecord}
    {isFillBar : Bool} (h : trailPosition position candle strategy record isFillBar = .ok trailed) :
    ∃ stop extreme, trailed = { position with stopPrice := stop, trailExtreme := extreme } := by
  unfold trailPosition at h
  split at h
  · exact ⟨_, _, (ok.inj h).symm⟩
  · obtain ⟨state, -, h⟩ := bind_eq_ok h
    exact ⟨_, _, (ok.inj h).symm⟩

theorem closeBook_cases {held : Position} {quote : FillQuote} {reason : ExitReason}
    {feeRate : Decimal} (hheld : book.position = some held)
    (hposition : position = held ∨ ∃ isFillBar, trailPosition held candle strategy
      (feed.records.get? candle.startsAt) isFillBar = .ok position)
    (hdue : costs.futures.isSome ∨ exitDue feed held candle offset strategy costs = true)
    (hquote : ExitQuote position candle costs quote feeRate) (hreason : reason ≠ .evaluationEnd)
    (h : closeBook book position candle cash quote reason feeRate bar = .ok closing) :
    closing.trade.isSome = true ∧
      ExitOutcome feed book candle offset strategy costs cash bar closing := by
  obtain ⟨⟨trade, cash'⟩, hclose, rfl⟩ := bind_pure_ok h
  exact ⟨rfl, .closes hheld hposition hdue hquote hreason hclose⟩

/-- An attempt of the first three kinds leaves cash and book alone, or closes. -/
def Attempted (feed : BookFeed) (book : Book) (candle : Candle) (offset : Nat)
    (strategy : StrategyDefinition) (costs : Costs) (cash : Decimal) (bar : Duration)
    (closing : Closing) : Prop :=
  closing = ⟨none, cash, book⟩ ∨ (closing.trade.isSome = true ∧
    ExitOutcome feed book candle offset strategy costs cash bar closing)

theorem stopClose_cases (hheld : book.position = some position)
    (hhit : stopHit position candle costs.fillModel = true)
    (h : stopClose book position candle costs cash bar = .ok closing) :
    closing.trade.isSome = true ∧
      ExitOutcome feed book candle offset strategy costs cash bar closing := by
  obtain ⟨reference, hreference, h⟩ := bind_eq_ok h
  exact closeBook_cases hheld (.inl rfl) (.inr (by simp [exitDue, hhit])) (.stop hreference)
    (by decide) h

theorem liquidate_cases (h : liquidate book candle costs cash bar = .ok closing) :
    Attempted feed book candle offset strategy costs cash bar closing := by
  unfold liquidate at h
  split at h
  next terms position hterms hheld =>
    simp only at h
    split at h
    · exact .inl (ok.inj h).symm
    · refine .inr (closeBook_cases hheld (.inl rfl) (.inl (by simp [hterms])) (.market ?_)
        (by decide) h)
      cases hside : position.side <;> simp [adverseExtreme, hside]
  · exact .inl (ok.inj h).symm

theorem stopOut_cases (h : stopOut book candle costs cash bar = .ok closing) :
    Attempted feed book candle offset strategy costs cash bar closing := by
  unfold stopOut at h
  split at h
  · exact .inl (ok.inj h).symm
  next position hheld =>
    split at h
    · exact .inl (ok.inj h).symm
    next hhit => exact .inr (stopClose_cases hheld (by simp at hhit; exact hhit.2) h)

theorem matchTakeProfit_cases (h : matchTakeProfit book candle costs cash bar = .ok closing) :
    Attempted feed book candle offset strategy costs cash bar closing := by
  unfold matchTakeProfit at h
  split at h
  · exact .inl (ok.inj h).symm
  next position hheld =>
    split at h
    · exact .inl (ok.inj h).symm
    next target htarget =>
      split at h
      · exact .inl (ok.inj h).symm
      next htouched =>
        simp only [not_or, Bool.not_eq_false] at htouched
        refine .inr (closeBook_cases hheld (.inl rfl) (.inr ?_) (.target htarget) (by decide) h)
        simp [exitDue, htouched, htarget]

theorem managePosition_cases
    (h : managePosition feed book candle offset strategy costs cash bar = .ok closing) :
    ExitOutcome feed book candle offset strategy costs cash bar closing := by
  unfold managePosition at h
  split at h
  next hflat => exact ok.inj h ▸ .flat hflat
  next position hheld =>
    split at h
    next hhit => exact (stopClose_cases hheld hhit h).2
    · obtain ⟨trailed, htrail, h⟩ := bind_eq_ok h
      split at h
      next hsignal =>
        refine (closeBook_cases hheld (.inr ⟨_, htrail⟩) (.inr ?_) (.market (by simp)) (by decide)
          h).2
        have hsignal' : offset ≠ position.enteredBarIndex ∧
            signalExitMatched (feed.records.get? candle.startsAt) = true := by simpa using hsignal
        simp [exitDue, hsignal']
      · split at h
        next htime =>
          refine (closeBook_cases hheld (.inr ⟨_, htrail⟩) (.inr ?_) (.market (by simp))
            (by decide) h).2
          -- a trail keeps the bar the position was entered on
          have hentered : trailed.enteredBarIndex = position.enteredBarIndex := by
            obtain ⟨stop, extreme, rfl⟩ := trailPosition_frame htrail
            rfl
          rw [hentered] at htime
          simp [exitDue, htime]
        · exact ok.inj h ▸ .arms hheld htrail

theorem exitPosition_cases
    (h : exitPosition feed book candle offset strategy costs cash bar = .ok closing) :
    ExitOutcome feed book candle offset strategy costs cash bar closing := by
  -- an attempt that did not close hands the untouched book to the next one
  obtain ⟨liquidated, hliquidate, h⟩ := bind_eq_ok h
  rcases liquidate_cases hliquidate with rfl | ⟨hclosed, houtcome⟩
  · obtain ⟨stopped, hstop, h⟩ := bind_eq_ok h
    rcases stopOut_cases hstop with rfl | ⟨hclosed, houtcome⟩
    · obtain ⟨taken, htake, h⟩ := bind_eq_ok h
      rcases matchTakeProfit_cases htake with rfl | ⟨hclosed, houtcome⟩
      · exact managePosition_cases h
      · rw [if_pos hclosed] at h
        exact ok.inj h ▸ houtcome
    · rw [if_pos hclosed] at h
      exact ok.inj h ▸ houtcome
  · rw [if_pos hclosed] at h
    exact ok.inj h ▸ houtcome

end

/-! ## Expiry and funding -/

/-- What the expiry flatten can leave: no resting entry, and no position. -/
inductive ExpiryOutcome (desk : Desk) (candle : Candle) (costs : Costs) (bar : Duration) :
    Closing → Prop where
  | flat (hflat : desk.book.position = none) :
      ExpiryOutcome desk candle costs bar ⟨none, desk.cash, { desk.book with pending := none }⟩
  | closes {position : Position} {trade : BacktestTrade} {cash : Decimal}
      (hheld : desk.book.position = some position)
      (hclose : closePosition position candle desk.cash
        (takerExitQuote position candle.open_ costs) .expiry costs.takerFeeRate bar =
          .ok (trade, cash)) :
      ExpiryOutcome desk candle costs bar
        ⟨some trade, cash, { desk.book with pending := none, position := none }⟩

/-- The counters after the expiry flatten drops a resting entry. -/
def expiredTally (desk : Desk) : Tally :=
  if desk.book.pending.isSome then
    { desk.tally with entriesExpired := desk.tally.entriesExpired + 1 }
  else desk.tally

variable {bar : Duration} {costs : Costs} {candle : Candle}

theorem flattenForExpiry_cases {desk : Desk} {closing : Closing}
    {tally : Tally} (h : flattenForExpiry desk candle costs bar = .ok (closing, tally)) :
    ExpiryOutcome desk candle costs bar closing ∧ tally = expiredTally desk := by
  unfold flattenForExpiry at h
  simp only at h
  split at h
  next hflat =>
    cases h
    exact ⟨.flat hflat, rfl⟩
  next position hheld =>
    obtain ⟨closed, hclosed, h⟩ := bind_eq_ok h
    cases h
    obtain ⟨⟨trade, cash⟩, hclose, hclosed⟩ := bind_eq_ok hclosed
    cases hclosed
    exact ⟨.closes hheld hclose, rfl⟩

inductive FundingOutcome (book : Book) (costs : Costs) (cash : Decimal) : Book → Decimal → Prop where
  | none : FundingOutcome book costs cash book cash
  | flows {position : Position} (hheld : book.position = some position)
      (hfutures : costs.futures.isSome) (flow : Decimal) :
      FundingOutcome book costs cash { book with
        position := some { position with funding := some (position.funding.getD 0 + flow) } }
        (cash + flow)

variable {book : Book} {cash : Decimal}

theorem chargeFunding_cases {book' : Book} {cash' : Decimal}
    (h : chargeFunding book candle costs cash bar = .ok (book', cash')) :
    FundingOutcome book costs cash book' cash' := by
  unfold chargeFunding at h
  split at h
  next terms position hterms hheld =>
    simp only at h
    split at h
    · cases h
      exact .none
    · obtain ⟨charges, -, h⟩ := bind_eq_ok h
      cases h
      exact .flows hheld (by simp [hterms]) _
  · cases h
    exact .none

/-! ## One bar of one product -/

/-- What processing a bar can leave: the expiry flatten, or match, exits and funding in turn. -/
inductive BarOutcome (feed : BookFeed) (desk : Desk) (candle : Candle) (offset : Nat)
    (strategy : StrategyDefinition) (costs : Costs) (bar : Duration) : Desk → Prop where
  | expiry {closing : Closing} (hfutures : costs.futures.isSome)
      (hexpiry : ExpiryOutcome (coolDown desk) candle costs bar closing) :
      BarOutcome feed desk candle offset strategy costs bar
        (recordClose { coolDown desk with tally := expiredTally (coolDown desk) } closing strategy)
  | managed {matched : Desk} {closing : Closing} {book : Book} {cash : Decimal}
      (hmatch : EntryMatch (coolDown desk) candle offset strategy costs matched)
      (hexit : ExitOutcome feed matched.book candle offset strategy costs matched.cash bar closing)
      (hfunding : FundingOutcome (recordClose matched closing strategy).book costs
        (recordClose matched closing strategy).cash book cash) :
      BarOutcome feed desk candle offset strategy costs bar
        { recordClose matched closing strategy with book := book, cash := cash }

variable {strategy : StrategyDefinition} {feed : BookFeed}

theorem processBar_cases (h : processBar feed desk candle offset strategy costs bar = .ok desk') :
    BarOutcome feed desk candle offset strategy costs bar desk' := by
  unfold processBar at h
  split at h
  next hwindow =>
    obtain ⟨⟨closing, tally⟩, hflatten, rfl⟩ := bind_pure_ok h
    obtain ⟨houtcome, rfl⟩ := flattenForExpiry_cases hflatten
    refine .expiry ?_ houtcome
    unfold inExpiryWindow at hwindow
    cases hterms : costs.futures with
    | none => simp [hterms] at hwindow
    | some => rfl
  · obtain ⟨matched, hmatch, h⟩ := bind_eq_ok h
    obtain ⟨closing, hclosing, h⟩ := bind_eq_ok h
    obtain ⟨⟨book, cash⟩, hfunding, rfl⟩ := bind_pure_ok h
    exact .managed (matchEntry_cases hmatch) (exitPosition_cases hclosing)
      (chargeFunding_cases hfunding)

/-! ## Resting an entry at the close -/

def matchedTally (tally : Tally) : Tally :=
  { tally with signalsMatched := tally.signalsMatched + 1 }

/-- What the close of a bar can leave: a counter, or a rested entry that passed the gate. -/
inductive EntryRest (desk : Desk) (record : SignalTraceRecord) (strategy : StrategyDefinition)
    (costs : Costs) (limitPrice : Decimal) (mayOpenBook expiryWindow : Bool) : Desk → Prop where
  | warmup : EntryRest desk record strategy costs limitPrice mayOpenBook expiryWindow
      { desk with tally := { desk.tally with warmupBars := desk.tally.warmupBars + 1 } }
  | unmatched : EntryRest desk record strategy costs limitPrice mayOpenBook expiryWindow desk
  | skips (reason : SkipReason) :
      EntryRest desk record strategy costs limitPrice mayOpenBook expiryWindow
        { desk with tally := (matchedTally desk.tally).skip reason }
  | rests {pending : PendingEntry}
      (hgate : entryGate desk.book strategy limitPrice mayOpenBook expiryWindow = none)
      (hsized : sizeSignal desk.book.position record strategy costs desk.cash limitPrice =
        .ok (.ok pending)) :
      EntryRest desk record strategy costs limitPrice mayOpenBook expiryWindow
        { desk with
          book := { desk.book with pending := some pending }
          tally := (matchedTally desk.tally).rested pending }

theorem maybeRestEntry_cases {record : SignalTraceRecord} {mayOpenBook expiryWindow : Bool}
    (h : maybeRestEntry desk record strategy costs limitPrice mayOpenBook expiryWindow = .ok desk') :
    EntryRest desk record strategy costs limitPrice mayOpenBook expiryWindow desk' := by
  unfold maybeRestEntry at h
  split at h
  · exact ok.inj h ▸ .warmup
  · exact ok.inj h ▸ .unmatched
  · split at h
    next gate _ => exact ok.inj h ▸ .skips (.gate gate)
    next hgate =>
      obtain ⟨sized, hsized, h⟩ := bind_eq_ok h
      cases sized with
      | error reason => exact ok.inj h ▸ .skips (.entry reason)
      | ok => exact ok.inj h ▸ .rests hgate hsized

variable {expiryWindow mayOpenBook : Bool}

/-- The gate passes an entry onto a book off cooldown without a resting one: flat when one more may
open, else held when it may be added to. -/
theorem entryGate_eq_none (h : entryGate book strategy limitPrice mayOpenBook expiryWindow = none) :
    book.pending = none ∧ ((book.position = none ∧ mayOpenBook = true) ∨
      ∃ position, book.position = some position ∧ canPyramidAdd strategy position.side
        position.entry.price limitPrice position.addCount = true) := by
  obtain ⟨-, h⟩ := of_ite_ne h nofun
  obtain ⟨hpending, h⟩ := of_ite_ne h nofun
  obtain ⟨-, h⟩ := of_ite_ne h nofun
  refine ⟨by simpa using hpending, ?_⟩
  split at h
  next hflat =>
    obtain ⟨hmay, h⟩ := of_ite_ne_else h nofun
    exact .inl ⟨hflat, hmay⟩
  next position hheld =>
    obtain ⟨hadd, h⟩ := of_ite_ne_else h nofun
    exact .inr ⟨position, hheld, hadd⟩

variable {makerFeeRate : Decimal} {pending : PendingEntry} {signal : SignalTraceRecord}

/-- What an accepted fresh entry was sized from. -/
theorem sizeEntry_eq_ok {futures : Option FuturesTerms}
    (h : sizeEntry signal strategy cash limitPrice makerFeeRate futures = .ok (.ok pending)) :
    ∃ (atr : Decimal) (levels : EntryLevels) (quantity : Decimal) (capped : Bool),
      entryLevels strategy.entry.side limitPrice (atr * strategy.exits.initialStop.multiple)
        (rewardRiskMultiple strategy.exits) = .ok (.ok levels) ∧
      entryQuantity strategy cash (atr * strategy.exits.initialStop.multiple) limitPrice
        makerFeeRate futures = .ok (.ok (quantity, capped)) ∧
      pending =
        { signal := signal
          limitPrice := limitPrice
          quantity := quantity
          stopPrice := levels.stopPrice
          targetPrice := levels.targetPrice
          waitedBars := 0
          side := strategy.entry.side
          sizeCapped := capped } := by
  obtain ⟨atr, -, h⟩ := bind_eq_ok h
  obtain ⟨levels, hlevels, h⟩ := bind_eq_ok h
  cases levels with
  | error => cases h
  | ok levels =>
    obtain ⟨allowed, -, h⟩ := bind_eq_ok h
    obtain ⟨-, h⟩ := of_ite_ne h nofun
    obtain ⟨sized, hsized, h⟩ := bind_eq_ok h
    cases sized with
    | error => cases h
    | ok sized =>
      cases h
      exact ⟨atr, levels, sized.1, sized.2, hlevels, hsized, rfl⟩

theorem sizePyramidAdd_eq_ok
    (h : sizePyramidAdd signal strategy cash limitPrice makerFeeRate position = .ok (.ok pending)) :
    ∃ (sized : SizedNotional) (quantity : Decimal),
      0 < limitPrice ∧ 0 < addStopDistance position limitPrice ∧ 0 < cash ∧
      boundedNotional strategy cash (addStopDistance position limitPrice) limitPrice
        makerFeeRate = .ok (.ok sized) ∧
      divide sized.notional limitPrice = .ok quantity ∧
      pending =
        { signal := signal
          limitPrice := limitPrice
          quantity := quantity
          stopPrice := position.stopPrice
          targetPrice := position.targetPrice
          waitedBars := 0
          side := position.side
          isPyramidAdd := true
          sizeCapped := sized.capped } := by
  obtain ⟨allowed, -, h⟩ := bind_eq_ok h
  obtain ⟨-, h⟩ := of_ite_ne h nofun
  obtain ⟨hprice, h⟩ := of_ite_ne h nofun
  obtain ⟨hdistance, h⟩ := of_ite_ne h nofun
  obtain ⟨hcash, h⟩ := of_ite_ne h nofun
  obtain ⟨sized, hsized, h⟩ := bind_eq_ok h
  cases sized with
  | error => cases h
  | ok sized =>
    obtain ⟨quantity, hquantity, h⟩ := bind_eq_ok h
    cases h
    exact ⟨sized, quantity, not_le.mp hprice, not_le.mp hdistance, not_le.mp hcash,
      hsized, hquantity, rfl⟩

variable {done todo : List Book}

theorem takeTurn_cases {sim : Simulation}
    (h : takeTurn sim offset feed done todo desk = .ok desk') :
    ∃ candle record processed,
      feed.candleByStart.get? (sim.barStart offset) = some candle ∧
      feed.records.get? (sim.barStart offset) = some record ∧
      BarOutcome feed desk candle offset sim.strategy sim.costs sim.bar processed ∧
      EntryRest processed record sim.strategy sim.costs candle.close
        ((done ++ processed.book :: todo).countP (·.isOpen) <
          sim.strategy.portfolioLimits.maxConcurrentPositions)
        (inExpiryWindow sim.costs (sim.barStart offset + sim.bar)) desk' := by
  obtain ⟨candle, hcandle, h⟩ := bind_eq_ok h
  obtain ⟨processed, hprocess, h⟩ := bind_eq_ok h
  obtain ⟨record, hrecord, h⟩ := bind_eq_ok h
  exact ⟨candle, record, processed, lookup_eq_ok.mp hcandle, lookup_eq_ok.mp hrecord,
    processBar_cases hprocess, maybeRestEntry_cases h⟩

/-! ## The close-out -/

/-- The counters after the close-out drops a resting entry. -/
def leftoverTally (desk : Desk) : Tally :=
  if desk.book.pending.isSome then
    { desk.tally with entriesUnfilledAtEnd := desk.tally.entriesUnfilledAtEnd + 1 }
  else desk.tally

/-- What closing a book out can leave: an empty book, with its position sold at the
terminal open. -/
inductive CloseOut (sim : Simulation) (feed : BookFeed) (desk : Desk) : Desk → Prop where
  | flat (hflat : desk.book.position = none) :
      CloseOut sim feed desk { desk with
        tally := leftoverTally desk, book := { desk.book with pending := none } }
  | sells {position : Position} {candle : Candle} {trade : BacktestTrade} {cash : Decimal}
      (hheld : desk.book.position = some position)
      (hcandle : feed.candleByStart.get? sim.endsAt = some candle)
      (hclose : closePosition position candle desk.cash
        (takerExitQuote position candle.open_ sim.costs) .evaluationEnd sim.costs.takerFeeRate
        sim.bar = .ok (trade, cash)) :
      CloseOut sim feed desk
        { cash := cash
          trades := desk.trades ++ [trade]
          tally := (leftoverTally desk).closed trade
          book := { desk.book with pending := none, position := none } }

section

variable {sim : Simulation} {feed : BookFeed} {desk desk' : Desk}

theorem closeOutBook_cases
    (h : closeOutBook sim feed desk = .ok desk') : CloseOut sim feed desk desk' := by
  unfold closeOutBook at h
  simp only at h
  split at h
  next hflat =>
    cases h
    exact .flat hflat
  next position hheld =>
    obtain ⟨candle, hcandle, h⟩ := bind_eq_ok h
    obtain ⟨⟨trade, cash⟩, hclose, rfl⟩ := bind_pure_ok h
    exact .sells hheld (lookup_eq_ok.mp hcandle) hclose

theorem CloseOut.empty
    (h : CloseOut sim feed desk desk') : desk'.book.pending = none ∧ desk'.book.position = none := by
  cases h with
  | flat hflat => exact ⟨rfl, hflat⟩
  | sells => exact ⟨rfl, rfl⟩

end

/-! ## Runs -/

/-- The state in the middle of a bar: `bars` whole bars, then the first `turns` products'
turns of the next one. -/
def midBar (sim : Simulation) (bars turns : Nat) : Result (List Book × Account) := do
  let state ← runBars sim bars
  takeTurns sim bars (sim.feeds.take turns) [] state.books state.toAccount

/-- A turn changes one book and leaves the others. -/
theorem forall_exchange {p : Book → Prop} {book' : Book}
    (h : ∀ other ∈ done ++ book :: todo, p other) (hbook : p book') :
    ∀ other ∈ done ++ book' :: todo, p other := by
  intro other hother
  rcases mem_append.mp hother with hdone | hother
  · exact h other (by simp [hdone])
  · rcases mem_cons.mp hother with rfl | htodo
    · exact hbook
    · exact h other (by simp [htodo])

/-- A property of books and account that every turn keeps. -/
def KeptByTurns (sim : Simulation) (inv : List Book → Account → Prop) : Prop :=
  ∀ offset, ∀ feed ∈ sim.feeds, ∀ (done : List Book) (book : Book) (todo : List Book)
    (account : Account) (desk : Desk), inv (done ++ book :: todo) account →
    takeTurn sim offset feed done todo { toAccount := account, book := book } = .ok desk →
    inv (done ++ desk.book :: todo) desk.toAccount

section

variable {sim : Simulation} {inv : List Book → Account → Prop}

theorem takeTurns_invariant (hkept : KeptByTurns sim inv)
    (hfeeds : ∀ feed ∈ feeds, feed ∈ sim.feeds) (hinv : inv (done ++ todo) account)
    (h : takeTurns sim offset feeds done todo account = .ok (books, account')) :
    inv books account' := by
  induction feeds generalizing done todo account with
  | nil =>
    cases h
    exact hinv
  | cons feed _ ih =>
    cases todo with
    | nil =>
      cases h
      exact hinv
    | cons book todo =>
      obtain ⟨desk, hturn, h⟩ := bind_eq_ok h
      have hnext := hkept offset feed (hfeeds feed (by simp)) done book todo account desk hinv hturn
      refine ih (fun other hother => hfeeds other (by simp [hother])) ?_ h
      rw [append_assoc]
      exact hnext

section

variable (hkept : KeptByTurns sim inv) (hinitial : inv sim.initial.books sim.initial.toAccount)
include hkept hinitial

theorem runBars_invariant {state : RunState}
    (h : runBars sim bars = .ok state) : inv state.books state.toAccount := by
  induction bars generalizing state with
  | zero => exact ok.inj h ▸ hinitial
  | succ _ ih =>
    obtain ⟨before, hbefore, h⟩ := bind_eq_ok h
    obtain ⟨⟨books, account⟩, hturns, h⟩ := bind_eq_ok h
    obtain ⟨point, -, rfl⟩ := bind_pure_ok h
    exact takeTurns_invariant hkept (fun _ hfeed => hfeed)
      (show inv ([] ++ before.books) before.toAccount from ih hbefore) hturns

variable {turns : Nat}

theorem midBar_invariant
    (h : midBar sim bars turns = .ok (books, account)) : inv books account := by
  obtain ⟨state, hstate, h⟩ := bind_eq_ok h
  exact takeTurns_invariant hkept (fun _ hfeed => mem_of_mem_take hfeed)
    (show inv ([] ++ state.books) state.toAccount from runBars_invariant hkept hinitial hstate) h

end

theorem runBars_length {state : RunState} (h : runBars sim bars = .ok state) :
    state.books.length = sim.feeds.length := by
  have hkept : KeptByTurns sim (fun books _ => books.length = sim.feeds.length) := by
    intro offset feed _ done book todo account desk hlength _
    simpa using hlength
  exact runBars_invariant hkept (by simp [Simulation.initial]) h

end

/-! ## Every state of a run -/

/-- One step inside a product's turn, on the candle of its bar. -/
inductive TurnStep (sim : Simulation) (offset : Nat) (feed : BookFeed) (candle : Candle)
    (done todo : List Book) (desk : Desk) : Desk → Prop where
  | cools : TurnStep sim offset feed candle done todo desk (coolDown desk)
  | entry {matched : Desk}
      (hmatch : EntryMatch desk candle offset sim.strategy sim.costs matched) :
      TurnStep sim offset feed candle done todo desk matched
  | exits {closing : Closing}
      (hexit : ExitOutcome feed desk.book candle offset sim.strategy sim.costs desk.cash sim.bar
        closing) :
      TurnStep sim offset feed candle done todo desk (recordClose desk closing sim.strategy)
  | funds {book : Book} {cash : Decimal}
      (hfunding : FundingOutcome desk.book sim.costs desk.cash book cash) :
      TurnStep sim offset feed candle done todo desk { desk with book := book, cash := cash }
  | flattens {closing : Closing} (hfutures : sim.costs.futures.isSome)
      (hexpiry : ExpiryOutcome desk candle sim.costs sim.bar closing) :
      TurnStep sim offset feed candle done todo desk
        (recordClose { desk with tally := expiredTally desk } closing sim.strategy)
  | rests {record : SignalTraceRecord} {rested : Desk}
      (hrest : EntryRest desk record sim.strategy sim.costs candle.close
        ((done ++ desk.book :: todo).countP (·.isOpen) <
          sim.strategy.portfolioLimits.maxConcurrentPositions)
        (inExpiryWindow sim.costs (sim.barStart offset + sim.bar)) rested) :
      TurnStep sim offset feed candle done todo desk rested

/-- The points `_process_bar` passes inside a turn. -/
inductive TurnPoint (sim : Simulation) (offset : Nat) (feed : BookFeed) (desk : Desk) :
    Desk → Prop where
  | matched {candle : Candle} {matched : Desk}
      (hcandle : lookup feed.candleByStart (sim.barStart offset) = .ok candle)
      (hwindow : inExpiryWindow sim.costs candle.startsAt = false)
      (hmatch : matchEntry (coolDown desk) candle offset sim.strategy sim.costs = .ok matched) :
      TurnPoint sim offset feed desk matched
  | exited {candle : Candle} {matched : Desk} {closing : Closing}
      (hcandle : lookup feed.candleByStart (sim.barStart offset) = .ok candle)
      (hwindow : inExpiryWindow sim.costs candle.startsAt = false)
      (hmatch : matchEntry (coolDown desk) candle offset sim.strategy sim.costs = .ok matched)
      (hexit : exitPosition feed matched.book candle offset sim.strategy sim.costs matched.cash
        sim.bar = .ok closing) :
      TurnPoint sim offset feed desk (recordClose matched closing sim.strategy)
  | processed {candle : Candle} {processed : Desk}
      (hcandle : lookup feed.candleByStart (sim.barStart offset) = .ok candle)
      (hprocess : processBar feed desk candle offset sim.strategy sim.costs sim.bar =
        .ok processed) :
      TurnPoint sim offset feed desk processed

/-- The states of a run: between turns, inside a turn, and during the close-out. -/
inductive Reachable (sim : Simulation) : List Book → Account → Prop where
  | between {bars turns : Nat} {books : List Book} {account : Account}
      (hbars : bars < sim.evaluationBars)
      (h : midBar sim bars turns = .ok (books, account)) : Reachable sim books account
  | inside {bars : Nat} {done todo : List Book} {book : Book} {account : Account}
      {feed : BookFeed} {desk : Desk} (hbars : bars < sim.evaluationBars)
      (h : midBar sim bars done.length = .ok (done ++ book :: todo, account))
      (hfeed : sim.feeds[done.length]? = some feed)
      (hpoint : TurnPoint sim bars feed { toAccount := account, book := book } desk) :
      Reachable sim (done ++ desk.book :: todo) desk.toAccount
  | closing {state : RunState} {closed : Nat} {books : List Book} {account : Account}
      (hstate : runBars sim sim.evaluationBars = .ok state)
      (h : closeOutBooks sim (sim.feeds.take closed) state.books state.toAccount =
        .ok (books, account)) :
      Reachable sim books account

/-- What is checked of a state inside a bar holds of a reachable state. -/
theorem exists_reachable_midBar (engine : Engine) (specification : ResearchRunSpecification)
    (strategy : StrategyDefinition) (history : History) (bars turns : Nat)
    (check : Simulation → List Book × Account → Bool)
    (h : (do
      let sim ← backtestSimulation engine specification strategy history none
      let state ← midBar sim bars turns
      return (sim, state)).toOption.any
        (fun run : Simulation × List Book × Account =>
          bars < run.1.evaluationBars ∧ check run.1 run.2) = true) :
    ∃ sim books account, backtestSimulation engine specification strategy history none = .ok sim ∧
      Reachable sim books account ∧ check sim (books, account) = true := by
  obtain ⟨⟨sim, books, account⟩, hrun, hcheck⟩ := exists_eq_ok_of_any h
  obtain ⟨_, hsim, hrun⟩ := bind_eq_ok hrun
  obtain ⟨_, hmid, hrun⟩ := bind_eq_ok hrun
  cases hrun
  obtain ⟨hbars, hcheck⟩ := of_decide_eq_true hcheck
  exact ⟨sim, books, account, hsim, .between hbars hmid, hcheck⟩

section

variable {sim : Simulation} {offset : Nat} {feed : BookFeed} {candle : Candle}
  {done todo : List Book} {desk desk' : Desk} {inv : List Book → Account → Prop}

theorem BarOutcome.steps
    (h : BarOutcome feed desk candle offset sim.strategy sim.costs sim.bar desk') :
    Relation.ReflTransGen (TurnStep sim offset feed candle done todo) desk desk' := by
  cases h with
  | expiry hfutures hexpiry => exact .tail (.single .cools) (.flattens hfutures hexpiry)
  | managed hmatch hexit hfunding =>
    exact (((Relation.ReflTransGen.single .cools).tail (.entry hmatch)).tail
      (.exits hexit)).tail (.funds hfunding)

theorem TurnPoint.steps (h : TurnPoint sim offset feed desk desk') :
    ∃ candle, feed.candleByStart.get? (sim.barStart offset) = some candle ∧
      Relation.ReflTransGen (TurnStep sim offset feed candle done todo) desk desk' := by
  cases h with
  | matched hcandle _ hmatch =>
    exact ⟨_, lookup_eq_ok.mp hcandle, .tail (.single .cools) (.entry (matchEntry_cases hmatch))⟩
  | exited hcandle _ hmatch hexit =>
    exact ⟨_, lookup_eq_ok.mp hcandle, ((Relation.ReflTransGen.single .cools).tail
      (.entry (matchEntry_cases hmatch))).tail (.exits (exitPosition_cases hexit))⟩
  | processed hcandle hprocess =>
    exact ⟨_, lookup_eq_ok.mp hcandle, (processBar_cases hprocess).steps⟩

/-- A property of books and account that every step of every turn keeps. -/
def KeptBySteps (sim : Simulation) (inv : List Book → Account → Prop) : Prop :=
  ∀ (offset : Nat), ∀ feed ∈ sim.feeds, ∀ (candle : Candle) (done todo : List Book)
    (desk desk' : Desk), feed.candleByStart.get? (sim.barStart offset) = some candle →
    TurnStep sim offset feed candle done todo desk desk' →
    inv (done ++ desk.book :: todo) desk.toAccount → inv (done ++ desk'.book :: todo) desk'.toAccount

/-- A property of books and account that closing one book out keeps. -/
def KeptByCloseOut (sim : Simulation) (inv : List Book → Account → Prop) : Prop :=
  ∀ feed ∈ sim.feeds, ∀ (done todo : List Book) (desk desk' : Desk),
    CloseOut sim feed desk desk' →
    inv (done ++ desk.book :: todo) desk.toAccount → inv (done ++ desk'.book :: todo) desk'.toAccount

theorem KeptBySteps.steps (hkept : KeptBySteps sim inv) (hfeed : feed ∈ sim.feeds)
    (hcandle : feed.candleByStart.get? (sim.barStart offset) = some candle)
    (h : Relation.ReflTransGen (TurnStep sim offset feed candle done todo) desk desk')
    (hinv : inv (done ++ desk.book :: todo) desk.toAccount) :
    inv (done ++ desk'.book :: todo) desk'.toAccount := by
  induction h with
  | refl => exact hinv
  | tail _ hstep ih => exact hkept offset feed hfeed candle done todo _ _ hcandle hstep ih

theorem KeptBySteps.turns (hkept : KeptBySteps sim inv) : KeptByTurns sim inv := by
  intro offset feed hfeed done book todo account desk hinv hturn
  obtain ⟨candle, record, processed, hcandle, -, hbar, hrest⟩ := takeTurn_cases hturn
  have hprocessed := hkept.steps hfeed hcandle hbar.steps hinv
  exact hkept offset feed hfeed candle done todo _ _ hcandle (.rests hrest) hprocessed

theorem closeOutBooks_invariant (hkept : KeptByCloseOut sim inv)
    (hfeeds : ∀ feed ∈ feeds, feed ∈ sim.feeds) {books' : List Book}
    (hinv : inv (done ++ books) account)
    (h : closeOutBooks sim feeds books account = .ok (books', account')) :
    inv (done ++ books') account' := by
  induction feeds generalizing done books books' account with
  | nil =>
    cases h
    exact hinv
  | cons feed _ ih =>
    cases books with
    | nil =>
      cases h
      exact hinv
    | cons book books =>
      obtain ⟨desk, hdesk, h⟩ := bind_eq_ok h
      obtain ⟨⟨rest, final⟩, hrest, h⟩ := bind_eq_ok h
      cases h
      have hnext := hkept feed (hfeeds feed (by simp)) done books _ _ (closeOutBook_cases hdesk) hinv
      have hprefix : inv ((done ++ [desk.book]) ++ books) desk.toAccount := by
        rw [append_assoc]
        exact hnext
      have hfinal := ih (fun other hother => hfeeds other (by simp [hother])) hprefix hrest
      rw [append_assoc] at hfinal
      exact hfinal

/-- What every step and the close-out keep holds in every state of a run. -/
theorem reachable_invariant (hkept : KeptBySteps sim inv) (hclosed : KeptByCloseOut sim inv)
    (hinitial : inv sim.initial.books sim.initial.toAccount) (h : Reachable sim books account) :
    inv books account := by
  cases h with
  | between _ h => exact midBar_invariant hkept.turns hinitial h
  | inside _ h hfeed hpoint =>
    obtain ⟨candle, hcandle, hsteps⟩ := hpoint.steps
    exact hkept.steps (mem_of_getElem? hfeed) hcandle hsteps
      (midBar_invariant hkept.turns hinitial h)
  | closing hstate h =>
    exact closeOutBooks_invariant hclosed (fun _ hfeed => mem_of_mem_take hfeed)
      (show inv ([] ++ _) _ from runBars_invariant hkept.turns hinitial hstate) h

end

/-! ## Turn by turn

A property of single books that a turn keeps only under some condition on the run so far:
the rule hands each turn the state it is taken in. -/

/-- A product about to take its turn of a bar. -/
structure AtTurn (sim : Simulation) (bars : Nat) (done todo : List Book) (feed : BookFeed)
    (desk : Desk) : Prop where
  bar : bars < sim.evaluationBars
  state : midBar sim bars done.length = .ok (done ++ desk.book :: todo, desk.toAccount)
  feed : sim.feeds[done.length]? = some feed

variable {sim : Simulation} {offset : Nat}

theorem takeTurns_drop (hlength : feeds.length ≤ todo.length)
    (h : takeTurns sim offset feeds done todo account = .ok (books, account')) :
    books.drop (done.length + feeds.length) = todo.drop feeds.length := by
  induction feeds generalizing done todo account with
  | nil =>
    cases h
    simp
  | cons _ _ ih =>
    cases todo with
    | nil => simp at hlength
    | cons =>
      obtain ⟨desk, -, h⟩ := bind_eq_ok h
      have hrest := ih (by simpa using hlength) h
      rw [length_append, length_singleton] at hrest
      rw [length_cons, drop_succ_cons, ← hrest]
      congr 1
      omega

theorem takeTurns_snoc (hlength : feeds.length < todo.length)
    (h : takeTurns sim offset (feeds ++ [feed]) done todo account = .ok (books, account')) :
    ∃ first rest desk desk',
      takeTurns sim offset feeds done todo account =
        .ok (first ++ desk.book :: rest, desk.toAccount) ∧
      first.length = done.length + feeds.length ∧
      takeTurn sim offset feed first rest desk = .ok desk' ∧
      books = first ++ desk'.book :: rest := by
  induction feeds generalizing done todo account with
  | nil =>
    cases todo with
    | nil => simp at hlength
    | cons book todo =>
      obtain ⟨desk, hturn, h⟩ := bind_eq_ok h
      cases h
      exact ⟨done, todo, { toAccount := account, book := book }, desk, rfl, by simp, hturn, by simp⟩
  | cons _ _ ih =>
    cases todo with
    | nil => simp at hlength
    | cons =>
      obtain ⟨desk, hturn, h⟩ := bind_eq_ok h
      obtain ⟨first, rest, last, last', hfirst, hcount, hlast, hbooks⟩ :=
        ih (by simpa using hlength) h
      refine ⟨first, rest, last, last', ?_, ?_, hlast, hbooks⟩
      · rw [takeTurns, hturn]
        exact hfirst
      · rw [hcount, length_append, length_singleton, length_cons]
        omega

theorem midBar_succ (hbars : bars < sim.evaluationBars) (hfeed : sim.feeds[turns]? = some feed)
    (h : midBar sim bars (turns + 1) = .ok (books, account)) :
    ∃ done todo desk desk', done.length = turns ∧ AtTurn sim bars done todo feed desk ∧
      takeTurn sim bars feed done todo desk = .ok desk' ∧ books = done ++ desk'.book :: todo := by
  obtain ⟨state, hstate, h⟩ := bind_eq_ok h
  obtain ⟨hbound, hget⟩ := List.getElem?_eq_some_iff.mp hfeed
  have htake : sim.feeds.take (turns + 1) = sim.feeds.take turns ++ [feed] := by
    rw [take_add_one, hfeed]
    rfl
  have hturns : (sim.feeds.take turns).length = turns := by
    rw [length_take]
    omega
  rw [htake] at h
  obtain ⟨first, rest, desk, desk', hfirst, hcount, hturn, hbooks⟩ :=
    takeTurns_snoc (by rw [hturns, runBars_length hstate]; exact hbound) h
  have hlength : first.length = turns := by
    rw [hcount, hturns, length_nil, Nat.zero_add]
  refine ⟨first, rest, desk, desk', hlength, ⟨hbars, ?_, ?_⟩, hturn, hbooks⟩
  · rw [hlength, midBar, hstate]
    exact hfirst
  · rw [hlength]
    exact hfeed

/-- A property of books that holds of an empty one and that turns keep. -/
structure KeptByBooks (sim : Simulation) (p : Book → Prop) : Prop where
  empty : p {}
  turn : ∀ {bars done todo feed desk desk'}, AtTurn sim bars done todo feed desk → p desk.book →
    takeTurn sim bars feed done todo desk = .ok desk' → p desk'.book
  point : ∀ {bars done todo feed desk desk'}, AtTurn sim bars done todo feed desk → p desk.book →
    TurnPoint sim bars feed desk desk' → p desk'.book
  closed : ∀ {feed desk desk'}, p desk.book → CloseOut sim feed desk desk' → p desk'.book

variable {p : Book → Prop}

theorem KeptByBooks.midBar (hkept : KeptByBooks sim p) {state : RunState}
    (hbars : bars < sim.evaluationBars) (hstate : runBars sim bars = .ok state)
    (hbooks : ∀ book ∈ state.books, p book)
    (h : midBar sim bars turns = .ok (books, account)) : ∀ book ∈ books, p book := by
  induction turns generalizing books account with
  | zero =>
    obtain ⟨_, hsame, h⟩ := bind_eq_ok h
    cases hstate.symm.trans hsame
    cases h
    exact hbooks
  | succ turns ih =>
    cases hfeed : sim.feeds[turns]? with
    | none =>
      -- every product had its turn already
      have hall : sim.feeds.take (turns + 1) = sim.feeds.take turns := by
        rw [take_add_one, hfeed]
        simp
      rw [Backtest.midBar, hall] at h
      exact ih h
    | some =>
      obtain ⟨done, todo, desk, desk', hlength, hturn, htaken, rfl⟩ := midBar_succ hbars hfeed h
      have hbefore := ih (hlength ▸ hturn.state)
      exact forall_exchange hbefore (hkept.turn hturn (hbefore _ (by simp)) htaken)

theorem KeptByBooks.runBars (hkept : KeptByBooks sim p) {state : RunState}
    (hbars : bars ≤ sim.evaluationBars) (h : runBars sim bars = .ok state) :
    ∀ book ∈ state.books, p book := by
  induction bars generalizing state with
  | zero =>
    cases h
    intro book hbook
    obtain ⟨feed, -, rfl⟩ := mem_map.mp hbook
    exact hkept.empty
  | succ bars ih =>
    obtain ⟨before, hbefore, h⟩ := bind_eq_ok h
    obtain ⟨⟨books, account⟩, hturns, h⟩ := bind_eq_ok h
    obtain ⟨point, -, rfl⟩ := bind_pure_ok h
    have hmid : Backtest.midBar sim bars sim.feeds.length = .ok (books, account) := by
      rw [Backtest.midBar, hbefore, take_length]
      exact hturns
    exact hkept.midBar (by omega) hbefore (ih (by omega) hbefore) hmid

/-- What an empty book has and turns keep, every book has in every state of a run. -/
theorem KeptByBooks.reachable (hkept : KeptByBooks sim p) (h : Reachable sim books account) :
    ∀ book ∈ books, p book := by
  cases h with
  | between hbars h =>
    obtain ⟨state, hstate, -⟩ := bind_eq_ok h
    exact hkept.midBar hbars hstate (hkept.runBars hbars.le hstate) h
  | inside hbars h hfeed hpoint =>
    obtain ⟨state, hstate, -⟩ := bind_eq_ok h
    have hbefore := hkept.midBar hbars hstate (hkept.runBars hbars.le hstate) h
    exact forall_exchange hbefore (hkept.point ⟨hbars, h, hfeed⟩ (hbefore _ (by simp)) hpoint)
  | @closing state _ _ _ hstate h =>
    have hclosed : KeptByCloseOut sim (fun books _ => ∀ book ∈ books, p book) := by
      intro feed _ done todo desk desk' hclose hbooks
      exact forall_exchange hbooks (hkept.closed (hbooks _ (by simp)) hclose)
    exact closeOutBooks_invariant hclosed (fun _ hfeed => mem_of_mem_take hfeed)
      (show ∀ book ∈ [] ++ state.books, p book from hkept.runBars le_rfl hstate) h

end Thytrader.Backtest
