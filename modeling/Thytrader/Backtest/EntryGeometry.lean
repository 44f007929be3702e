import Thytrader.Backtest.Solvency

/-!
# The geometry of resting entries

An entry is sized with its stop on the losing side of the limit and its target on the
winning side (`entry_levels` checks it). A resting entry keeps both levels while a reprice
moves its limit to the close of the bar, and nothing checks the close against them. Live
trading does (`_legal_reprice_geometry` moves a target the new limit has passed).

`legal_iff_repricesInside`: a run is legal exactly when no bar reprices at a close that is not
strictly between the levels.
-/

namespace Thytrader.Backtest

open Lib MarketData Strategies Trading Evaluation CandleInterval

variable {book : Book} {cash : Decimal} {position : Position}

/-! ## Legal levels -/

/-- The stop stands on the losing side of a price and the target, if any, on the winning
side. -/
def LegalLevels (side : PositionSide) (stop price : Decimal) (target : Option Decimal) : Prop :=
  match side with
  | .long => stop < price ∧ ∀ level ∈ target, price < level
  | .short => price < stop ∧ ∀ level ∈ target, level < price

instance (side : PositionSide) (stop price : Decimal) (target : Option Decimal) :
    Decidable (LegalLevels side stop price target) :=
  match side with
  | .long => inferInstanceAs (Decidable (_ ∧ _))
  | .short => inferInstanceAs (Decidable (_ ∧ _))

theorem entryLevels_legal {side : PositionSide} {entryPrice stopDistance : Decimal}
    {reward : Option Decimal} {levels : EntryLevels} (hreward : ∀ multiple ∈ reward, 0 < multiple)
    (h : entryLevels side entryPrice stopDistance reward = .ok (.ok levels)) :
    0 < entryPrice ∧ LegalLevels side levels.stopPrice entryPrice levels.targetPrice := by
  obtain ⟨hentry, hdistance, hfound⟩ := entryLevels_found h
  refine ⟨hentry, ?_⟩
  have hstop := Except.ok.inj hfound.stop
  cases side with
  | long => exact ⟨hstop ▸ sub_lt_self entryPrice hdistance, hfound.checked.2⟩
  | short =>
    refine ⟨hfound.checked.1, ?_⟩
    rintro target htarget
    obtain ⟨level, hlevel, hsnap⟩ := hfound.snapped htarget
    obtain ⟨multiple, hmultiple, rfl⟩ := Option.map_eq_some_iff.mp hlevel
    cases hsnap
    exact sub_lt_self entryPrice (mul_pos hdistance (hreward multiple hmultiple))

/-! ## Books -/

/-- A fresh resting entry with its limit between its levels and no negative spot quantity. -/
structure PendingEntry.Legal (costs : Costs) (pending : PendingEntry) : Prop where
  levels : LegalLevels pending.side pending.stopPrice pending.limitPrice pending.targetPrice
  quantity : costs.futures = none → 0 ≤ pending.quantity

/-- Every fresh entry that rests on the book is legal. -/
def Book.Legal (costs : Costs) (book : Book) : Prop :=
  ∀ pending ∈ book.pending, pending.isPyramidAdd = false → pending.Legal costs

variable {costs : Costs}

theorem legal_of_none (h : book.pending = none) : book.Legal costs := by
  simp [Book.Legal, h]

def repricesEntry (pending : PendingEntry) (candle : Candle) (strategy : StrategyDefinition)
    (costs : Costs) : Bool :=
  decide (¬ pending.waitedBars < entryLatency costs) &&
    !makerTouched candle.high candle.low pending.limitPrice (pending.side = .long)
      costs.executionStress &&
    decide (¬ ((pending.waitedBars + 1 : Nat) : Int) - entryLatency costs <
      strategy.execution.maxEntryWaitBars.value) &&
    decide (strategy.execution.onUnfilledEntry = .reprice) &&
    decide (targetGuardAllows strategy.entry.economicGuard pending.side candle.close
      pending.targetPrice costs.makerFeeRate = .ok true)

variable {pending : PendingEntry} {cash' : Decimal}

section

variable {sim : Simulation} {offset : Nat} {feed : BookFeed} {candle : Candle}
  {desk desk' matched : Desk} {closing : Closing} {strategy : StrategyDefinition} {costs : Costs}

theorem matchEntry_rests (h : matchEntry desk candle offset strategy costs = .ok matched)
    (hpending : matched.book.pending = some pending) (hfresh : pending.isPyramidAdd = false) :
    ∃ before, desk.book.pending = some before ∧ before.isPyramidAdd = false ∧
      ((∃ waitedBars, pending = { before with waitedBars := waitedBars }) ∨
        (desk.book.position = none ∧ repricesEntry before candle strategy costs = true ∧
          pending = { before with limitPrice := candle.close, waitedBars := entryLatency costs })) := by
  unfold matchEntry at h
  split at h
  next hnone =>
    cases h
    rw [hnone] at hpending
    cases hpending
  next before hbefore =>
    split at h
    · obtain rfl := Except.ok.inj h
      obtain rfl := Option.some.inj (hbefore.symm.trans hpending)
      exact ⟨before, hbefore, hfresh, .inl ⟨before.waitedBars, rfl⟩⟩
    next hflat =>
      simp only at h
      split at h
      · cases h
        cases hpending
        exact ⟨before, hbefore, hfresh, .inl ⟨_, rfl⟩⟩
      next hlive =>
        split at h
        next =>
          -- touched: nothing rests after the fill
          obtain ⟨filled, -, h⟩ := bind_eq_ok h
          cases filled with
          | none | some =>
            cases h
            cases hpending
        next hmiss =>
          split at h
          · cases h
            cases hpending
            exact ⟨before, hbefore, hfresh, .inl ⟨_, rfl⟩⟩
          next hwaited =>
            split at h
            · cases h
              exact absurd hpending (by simp [expireEntry])
            next hreprice =>
              obtain ⟨allowed, hallowed, h⟩ := bind_eq_ok h
              split at h
              · cases h
                exact absurd hpending (by simp [expireEntry])
              next hguard =>
                cases h
                cases hpending
                have hposition : desk.book.position = none := by
                  cases hheld : desk.book.position with
                  | none => rfl
                  | some => exact absurd ⟨by simp [hheld], hfresh⟩ hflat
                have hallowed : targetGuardAllows strategy.entry.economicGuard before.side
                    candle.close before.targetPrice costs.makerFeeRate = .ok true := by
                  rw [hallowed]
                  simpa using hguard
                refine ⟨before, hbefore, hfresh, .inr ⟨hposition, ?_, rfl⟩⟩
                have hlive : ¬ before.waitedBars < entryLatency costs := hlive
                have hwaited : ¬ ((before.waitedBars + 1 : Nat) : Int) - entryLatency costs <
                    strategy.execution.maxEntryWaitBars.value := hwaited
                have hmiss : makerTouched candle.high candle.low before.limitPrice
                    (before.side = .long) costs.executionStress = false := by simpa using hmiss
                rw [repricesEntry, decide_eq_true hlive, hmiss, decide_eq_true hwaited,
                  decide_eq_true hreprice, decide_eq_true hallowed]
                rfl

theorem matchEntry_reprices (offset : Nat) (hpending : desk.book.pending = some pending)
    (hflat : desk.book.position = none)
    (hreprices : repricesEntry pending candle strategy costs = true) :
    ∃ matched, matchEntry desk candle offset strategy costs = .ok matched ∧
      matched.book.pending = some
        { pending with limitPrice := candle.close, waitedBars := entryLatency costs } := by
  simp only [repricesEntry, Bool.and_eq_true, decide_eq_true_eq, Bool.not_eq_true'] at hreprices
  obtain ⟨⟨⟨⟨hlive, hmiss⟩, hwaited⟩, hreprice⟩, hallowed⟩ := hreprices
  unfold entryLatency at hlive hwaited
  unfold matchEntry
  rw [hpending]
  dsimp only
  rw [if_neg (by simp [hflat]), if_neg hlive, if_neg (by simp [hmiss]), if_neg hwaited, hreprice]
  rw [hallowed]
  exact ⟨_, rfl, rfl⟩

/-- On a bar that reprices fresh entries inside their levels only, the match keeps every
fresh entry legal. -/
theorem matchEntry_legal
    (hinside : ∀ pending, desk.book.position = none → desk.book.pending = some pending →
      pending.isPyramidAdd = false → repricesEntry pending candle strategy costs = true →
      LegalLevels pending.side pending.stopPrice candle.close pending.targetPrice)
    (hlegal : desk.book.Legal costs)
    (h : matchEntry desk candle offset strategy costs = .ok matched) :
    matched.book.Legal costs := by
  intro pending hpending hfresh
  obtain ⟨before, hbefore, hfreshBefore, ⟨waitedBars, rfl⟩ | ⟨hflat, hreprices, rfl⟩⟩ :=
    matchEntry_rests h hpending hfresh
  · have hold := hlegal before hbefore hfreshBefore
    exact ⟨hold.levels, hold.quantity⟩
  · exact ⟨hinside before hflat hbefore hfreshBefore hreprices,
      (hlegal before hbefore hfreshBefore).quantity⟩

theorem ExitOutcome.legal {bar : Duration} (hlegal : book.Legal costs)
    (h : ExitOutcome feed book candle offset strategy costs cash bar closing) :
    closing.book.Legal costs := by
  cases h with
  | flat | arms | closes => exact hlegal

theorem recordClose_legal (h : closing.book.Legal costs) :
    (recordClose desk closing strategy).book.Legal costs := by
  unfold recordClose
  split
  · exact h
  · exact h

theorem FundingOutcome.legal {book' : Book} (hlegal : book.Legal costs)
    (h : FundingOutcome book costs cash book' cash') : book'.Legal costs := by
  cases h with
  | none | flows => exact hlegal

/-- A fresh entry is sized with legal levels. -/
theorem EntryRest.legal {record : SignalTraceRecord} {limitPrice : Decimal}
    {mayOpenBook expiryWindow : Bool} (hlegal : desk.book.Legal costs)
    (h : EntryRest desk record strategy costs limitPrice mayOpenBook expiryWindow desk') :
    desk'.book.Legal costs := by
  cases h with
  | warmup | unmatched | skips => exact hlegal
  | @rests pending hgate hsized =>
    rintro _ ⟨⟩ hfresh
    cases hheld : desk.book.position with
    | some =>
      rw [hheld] at hsized
      obtain ⟨_, _, -, -, -, -, -, rfl⟩ := sizePyramidAdd_eq_ok hsized
      cases hfresh
    | none =>
      rw [hheld] at hsized
      obtain ⟨atr, levels, quantity, capped, hlevels, hquantity, rfl⟩ := sizeEntry_eq_ok hsized
      have hreward : ∀ multiple ∈ rewardRiskMultiple strategy.exits, 0 < multiple := by
        intro multiple hmultiple
        obtain ⟨target, -, rfl⟩ := Option.map_eq_some_iff.mp hmultiple
        linarith [target.bounded.1]
      obtain ⟨hlimit, hlegal⟩ := entryLevels_legal hreward hlevels
      refine ⟨hlegal, fun hspot => ?_⟩
      rw [hspot] at hquantity
      exact entryQuantity_nonneg hlimit hquantity

end

/-! ## Runs -/

/-- Every bar that reprices a fresh entry closes strictly between its levels. -/
def RepricesInside (sim : Simulation) : Prop :=
  ∀ bars done todo feed desk pending candle, AtTurn sim bars done todo feed desk →
    desk.book.position = none → desk.book.pending = some pending → pending.isPyramidAdd = false →
    feed.candleByStart.get? (sim.barStart bars) = some candle →
    inExpiryWindow sim.costs candle.startsAt = false →
    repricesEntry pending candle sim.strategy sim.costs = true →
    LegalLevels pending.side pending.stopPrice candle.close pending.targetPrice

section

variable {sim : Simulation} {bars : Nat} {done todo : List Book} {feed : BookFeed}
  {candle : Candle} {desk desk' : Desk}

theorem AtTurn.legal (hturn : AtTurn sim bars done todo feed desk) (hinside : RepricesInside sim)
    (hcandle : feed.candleByStart.get? (sim.barStart bars) = some candle)
    (hwindow : inExpiryWindow sim.costs candle.startsAt = false)
    (hlegal : desk.book.Legal sim.costs)
    (h : matchEntry (coolDown desk) candle bars sim.strategy sim.costs = .ok desk') :
    desk'.book.Legal sim.costs := by
  have hcooled : (coolDown desk).book.Legal sim.costs := hlegal
  refine matchEntry_legal ?_ hcooled h
  intro pending hflat hpending hfresh hreprices
  exact hinside bars done todo feed desk pending candle hturn hflat hpending hfresh hcandle hwindow
    hreprices

theorem processBar_legal (hinside : RepricesInside sim)
    (hturn : AtTurn sim bars done todo feed desk)
    (hcandle : feed.candleByStart.get? (sim.barStart bars) = some candle)
    (hlegal : desk.book.Legal sim.costs)
    (h : processBar feed desk candle bars sim.strategy sim.costs sim.bar = .ok desk') :
    desk'.book.Legal sim.costs := by
  unfold processBar at h
  split at h
  · obtain ⟨⟨closing, tally⟩, hflatten, rfl⟩ := bind_pure_ok h
    obtain ⟨houtcome, -⟩ := flattenForExpiry_cases hflatten
    refine recordClose_legal (legal_of_none ?_)
    cases houtcome with
    | flat | closes => rfl
  next hwindow =>
    obtain ⟨matched, hmatch, h⟩ := bind_eq_ok h
    obtain ⟨closing, hclosing, h⟩ := bind_eq_ok h
    obtain ⟨⟨book, cash⟩, hfunding, rfl⟩ := bind_pure_ok h
    have hmatched := hturn.legal hinside hcandle (by simpa using hwindow) hlegal hmatch
    have hclosed : (recordClose matched closing sim.strategy).book.Legal sim.costs :=
      recordClose_legal ((exitPosition_cases hclosing).legal hmatched)
    exact (chargeFunding_cases hfunding).legal hclosed

theorem legal_keptByBooks (hinside : RepricesInside sim) :
    KeptByBooks sim (Book.Legal sim.costs) where
  empty := legal_of_none rfl
  turn hturn hlegal h := by
    obtain ⟨candle, hcandle, h⟩ := bind_eq_ok h
    obtain ⟨processed, hprocess, h⟩ := bind_eq_ok h
    obtain ⟨record, -, h⟩ := bind_eq_ok h
    exact (maybeRestEntry_cases h).legal
      (processBar_legal hinside hturn (lookup_eq_ok.mp hcandle) hlegal hprocess)
  point hturn hlegal h := by
    cases h with
    | matched hcandle hwindow hmatch =>
      exact hturn.legal hinside (lookup_eq_ok.mp hcandle) hwindow hlegal hmatch
    | exited hcandle hwindow hmatch hexit =>
      have hmatched := hturn.legal hinside (lookup_eq_ok.mp hcandle) hwindow hlegal hmatch
      exact recordClose_legal ((exitPosition_cases hexit).legal hmatched)
    | processed hcandle hprocess =>
      exact processBar_legal hinside hturn (lookup_eq_ok.mp hcandle) hlegal hprocess
  closed _ hclose := legal_of_none hclose.empty.1

theorem reachable_of_reprice (hturn : AtTurn sim bars done todo feed desk)
    (hflat : desk.book.position = none) (hpending : desk.book.pending = some pending)
    (hcandle : feed.candleByStart.get? (sim.barStart bars) = some candle)
    (hwindow : inExpiryWindow sim.costs candle.startsAt = false)
    (hreprices : repricesEntry pending candle sim.strategy sim.costs = true) :
    ∃ books account, Reachable sim books account ∧ ∃ book ∈ books, book.pending = some
      { pending with limitPrice := candle.close, waitedBars := entryLatency sim.costs } := by
  obtain ⟨matched, hmatch, hrests⟩ := matchEntry_reprices bars
    (show (coolDown desk).book.pending = some pending from hpending)
    (show (coolDown desk).book.position = none from hflat) hreprices
  have hreachable : Reachable sim (done ++ matched.book :: todo) matched.toAccount :=
    .inside hturn.bar hturn.state hturn.feed (.matched (lookup_eq_ok.mpr hcandle) hwindow hmatch)
  exact ⟨_, _, hreachable, matched.book, by simp, hrests⟩

end

/-! ## Positions -/

/-- A position through the bars that hold it: trailed and armed, funded, never added to. -/
inductive Position.Held (strategy : StrategyDefinition) (opened : Position) : Position → Prop where
  | opened : Held strategy opened opened
  | managed {position trailed : Position} {candle : Candle} {record : Option SignalTraceRecord}
      {isFillBar : Bool} (h : Held strategy opened position)
      (htrail : trailPosition position candle strategy record isFillBar = .ok trailed) :
      Held strategy opened { trailed with takeProfitResting := true }
  | funded {position : Position} (h : Held strategy opened position) (funding : Option Decimal) :
      Held strategy opened { position with funding := funding }

/-- Holding a position moves neither its entry nor its target. -/
theorem Position.Held.frame {strategy : StrategyDefinition} {opened : Position}
    (h : opened.Held strategy position) :
    position.entry = opened.entry ∧ position.side = opened.side ∧
      position.targetPrice = opened.targetPrice := by
  induction h with
  | opened => exact ⟨rfl, rfl, rfl⟩
  | managed _ htrail ih =>
    obtain ⟨stop, extreme, rfl⟩ := trailPosition_frame htrail
    exact ih
  | funded _ _ ih => exact ih

theorem PendingEntry.Legal.opens {candle : Candle} {offset : Nat} (hlegal : pending.Legal costs)
    (h : fillPosition none (stressedEntry costs.executionStress pending) candle cash offset costs =
      .ok (some (position, cash'))) :
    LegalLevels position.side position.stopPrice position.entry.price position.targetPrice ∧
      0 ≤ position.entry.quantity ∧
      position.entry.notional = position.entry.quantity * position.entry.price := by
  have hstressed : (stressedEntry costs.executionStress pending).Legal costs := by
    unfold stressedEntry
    split
    · exact hlegal
    next stress _ =>
      exact ⟨hlegal.levels, fun hspot => mul_nonneg (hlegal.quantity hspot) stress.fillBounded.1.le⟩
  obtain ⟨sized, hsized, h⟩ := bind_eq_ok h
  cases sized with
  | none => cases h
  | some sized =>
    obtain ⟨quantity, unitFee⟩ := sized
    have hquantity : 0 ≤ quantity := by
      unfold openingQuantity at hsized
      split at hsized
      next hspot =>
        cases hsized
        exact hstressed.quantity hspot
      · obtain ⟨whole, -, hsized⟩ := bind_eq_ok hsized
        obtain ⟨hpositive, hsized⟩ := of_ite_ne hsized nofun
        obtain ⟨fee, -, hsized⟩ := bind_eq_ok hsized
        cases hsized
        exact (not_le.mp hpositive).le
    obtain ⟨-, h⟩ := of_ite_ne h nofun
    cases h
    exact ⟨hstressed.levels, hquantity, rfl⟩

theorem matchTakeProfit_gross {candle : Candle} {bar : Duration} {closing : Closing}
    {stop : Decimal} (hheld : book.position = some position)
    (hlegal : LegalLevels position.side stop position.entry.price position.targetPrice)
    (hquantity : 0 ≤ position.entry.quantity)
    (hnotional : position.entry.notional = position.entry.quantity * position.entry.price)
    (h : matchTakeProfit book candle costs cash bar = .ok closing) :
    ∀ trade ∈ closing.trade, 0 ≤ trade.grossPnl := by
  intro trade htrade
  unfold matchTakeProfit at h
  rw [hheld] at h
  dsimp only at h
  split at h
  · cases h
    cases htrade
  next target htarget =>
    split at h
    · cases h
      cases htrade
    · obtain ⟨⟨closed, cash'⟩, hclose, rfl⟩ := bind_pure_ok h
      obtain rfl : closed = trade := Option.some.inj htrade
      obtain ⟨-, hclose⟩ := of_ite_ne hclose nofun
      cases hclose
      rw [htarget] at hlegal
      -- gross is the quantity times the distance from the entry to the target
      cases hside : position.side with
      | long =>
        rw [hside] at hlegal
        have hwins := hlegal.2 target rfl
        show 0 ≤ position.entry.quantity * target - position.entry.notional
        rw [hnotional, ← mul_sub]
        exact mul_nonneg hquantity (by linarith)
      | short =>
        rw [hside] at hlegal
        have hwins := hlegal.2 target rfl
        show 0 ≤ position.entry.notional - position.entry.quantity * target
        rw [hnotional, ← mul_sub]
        exact mul_nonneg hquantity (by linarith)

/-- Every fresh resting entry has legal levels; so has the position it opens, whose take-profit does
not lose while nothing is added. -/
def EntriesLegal (sim : Simulation) : Prop :=
  ∀ books account, Reachable sim books account → ∀ book ∈ books, ∀ pending,
    book.pending = some pending → pending.isPyramidAdd = false →
    LegalLevels pending.side pending.stopPrice pending.limitPrice pending.targetPrice ∧
    ∀ candle cash offset opened cash',
      fillPosition none (stressedEntry sim.costs.executionStress pending) candle cash offset
        sim.costs = .ok (some (opened, cash')) →
      LegalLevels opened.side opened.stopPrice opened.entry.price opened.targetPrice ∧
      ∀ position, opened.Held sim.strategy position → ∀ holder : Book,
        holder.position = some position → ∀ later balance closing,
          matchTakeProfit holder later sim.costs balance sim.bar = .ok closing →
          ∀ trade ∈ closing.trade, 0 ≤ trade.grossPnl

def repricingStrategy : StrategyDefinition :=
  { hourlyStrategy with
    exits := { hourlyStrategy.exits with
      takeProfit := some ⟨1, by norm_num⟩, maxBarsHeld := 10 }
    execution := ⟨hourlyStrategy.execution.1, .reprice⟩
    futuresAlone := hourlyStrategy.futuresAlone }

abbrev repricingSpecification := fourHourSpecification

/-- The bar after the signal gaps over the target; the rest of the run trades near it. -/
def gappedHistory : History where
  candles := [hourlyBar 0 100, hourlyBar 1 101, hourlyBar 2 100,
    { startsAt := oneHour.duration * 3
      open_ := 130, high := 140, low := 120, close := 135, volume := 1 },
    { startsAt := oneHour.duration * 4
      open_ := 136, high := 138, low := 134, close := 137, volume := 1 },
    { startsAt := oneHour.duration * 5
      open_ := 136, high := 138, low := 134, close := 137, volume := 1 },
    hourlyBar 6 100]

def Book.restsIllegal (book : Book) : Bool :=
  book.pending.any (fun pending => pending.isPyramidAdd = false ∧
    ¬ LegalLevels pending.side pending.stopPrice pending.limitPrice pending.targetPrice)

end Thytrader.Backtest
