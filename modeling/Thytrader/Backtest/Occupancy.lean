import Thytrader.Backtest.Accounting

/-!
# What the books of a run may hold

Three facts about a product's resting entry and its position. Over all books: those that
hold a position or an entry stay within `max_concurrent_positions`, because only a flat
book under the cap rests a fresh entry and no other step fills an empty book
(`reachable_capacity`). On one book: a resting add has a position under it, unless a bar closed
the position and left the add resting (`strandsAdd`, `reachable_add_scales`); and the adds of a
position stay within `max_open_positions` (`reachable_units`).
-/

namespace Thytrader.Backtest

open Lib MarketData Strategies Trading Evaluation List Book

/-! ## Capacity -/

/-- The book holds a position or a resting entry that will open one. -/
def Book.occupied (book : Book) : Bool :=
  book.position.isSome || book.pending.any (fun pending => !pending.isPyramidAdd)

variable {book : Book}

theorem Book.isOpen_of_occupied (h : book.occupied = true) : book.isOpen = true := by
  unfold occupied at h
  unfold isOpen
  cases hpending : book.pending with
  | none => simpa [hpending] using h
  | some => simp

variable {done todo : List Book}

section

variable {desk desk' : Desk} {candle : Candle} {offset : Nat} {strategy : StrategyDefinition}
  {costs : Costs} {bar : Duration}

theorem EntryMatch.isOpen (h : EntryMatch desk candle offset strategy costs desk')
    (hopen : desk'.book.isOpen = true) : desk.book.isOpen = true := by
  cases h with
  | idle => exact hopen
  | waits hpending | reprices hpending | expires hpending | refuses hpending | fills hpending =>
    simp [isOpen, hpending]

variable {closing : Closing}

theorem ExitOutcome.isOpen {feed : BookFeed} {cash : Decimal}
    (h : ExitOutcome feed book candle offset strategy costs cash bar closing)
    (hopen : closing.book.isOpen = true) : book.isOpen = true := by
  cases h with
  | flat => exact hopen
  | arms hheld | closes hheld => simp [isOpen, hheld]

theorem recordClose_isOpen :
    (recordClose desk closing strategy).book.isOpen = closing.book.isOpen := by
  unfold recordClose
  split <;> rfl

theorem TurnStep.isOpen {sim : Simulation} {feed : BookFeed}
    (h : TurnStep sim offset feed candle done todo desk desk') :
    (desk'.book.isOpen = true → desk.book.isOpen = true) ∨
      (desk.book.isOpen = false ∧ (done ++ desk.book :: todo).countP (·.isOpen) <
        sim.strategy.portfolioLimits.maxConcurrentPositions) := by
  cases h with
  | cools => exact .inl id
  | entry hmatch => exact .inl hmatch.isOpen
  | exits hexit =>
    rw [recordClose_isOpen]
    exact .inl hexit.isOpen
  | funds hfunding =>
    left
    cases hfunding with
    | none => exact id
    | flows hheld => simp [isOpen, hheld]
  | flattens _ hexpiry =>
    left
    rw [recordClose_isOpen]
    cases hexpiry with
    | flat hflat => simp [isOpen, hflat]
    | closes => simp [isOpen]
  | rests hrest =>
    cases hrest with
    | warmup | unmatched | skips => exact .inl id
    | rests hgate =>
      obtain ⟨hpending, ⟨hflat, hmay⟩ | ⟨position, hheld, -⟩⟩ := entryGate_eq_none hgate
      · exact .inr ⟨by simp [isOpen, hpending, hflat], by simpa using hmay⟩
      · exact .inl (fun _ => by simp [isOpen, hheld])

end

/-- The open books of a run stay within the cap. -/
def WithinCapacity (sim : Simulation) (books : List Book) (_account : Account) : Prop :=
  books.countP (·.isOpen) ≤ sim.strategy.portfolioLimits.maxConcurrentPositions

theorem countP_exchange (done todo : List Book) (book : Book) :
    (done ++ book :: todo).countP (·.isOpen) =
      done.countP (·.isOpen) + todo.countP (·.isOpen) + (if book.isOpen then 1 else 0) := by
  rw [countP_append, countP_cons]
  omega

theorem capacity_keptBySteps (sim : Simulation) : KeptBySteps sim (WithinCapacity sim) := by
  intro offset feed _ candle done todo desk desk' _ hstep hwithin
  unfold WithinCapacity at hwithin ⊢
  rw [countP_exchange] at hwithin ⊢
  rcases hstep.isOpen with hkeeps | ⟨hclosed, hroom⟩
  · by_cases hopen : desk'.book.isOpen = true
    · rw [if_pos (hkeeps hopen)] at hwithin
      rw [if_pos hopen]
      exact hwithin
    · rw [if_neg hopen]
      omega
  · -- a fresh entry rests on a flat book: the count before it was below the cap
    rw [countP_exchange, if_neg (by simp [hclosed])] at hroom
    split <;> omega

theorem capacity_keptByCloseOut (sim : Simulation) : KeptByCloseOut sim (WithinCapacity sim) := by
  intro feed _ done todo desk desk' hclose hwithin
  have hclosed : desk'.book.isOpen = false := by
    simp [isOpen, hclose.empty.1, hclose.empty.2]
  unfold WithinCapacity at hwithin ⊢
  rw [countP_exchange] at hwithin ⊢
  rw [if_neg (by simp [hclosed])]
  omega

/-- In every state of every run the books that hold a position or a resting fresh entry are at most
`max_concurrent_positions`. -/
theorem reachable_capacity {sim : Simulation} {books : List Book} {account : Account}
    (h : Reachable sim books account) :
    books.countP occupied ≤ sim.strategy.portfolioLimits.maxConcurrentPositions := by
  have hinitial : WithinCapacity sim sim.initial.books sim.initial.toAccount := by
    have hnone : sim.initial.books.countP (·.isOpen) = 0 := by
      rw [countP_eq_zero]
      intro book hbook
      obtain ⟨feed, -, rfl⟩ := mem_map.mp hbook
      decide
    exact (Nat.le_of_eq hnone).trans (Nat.zero_le _)
  have hopen := reachable_invariant (capacity_keptBySteps sim) (capacity_keptByCloseOut sim)
    hinitial h
  exact (countP_mono_left (fun book _ => isOpen_of_occupied)).trans hopen

/-- The hourly strategy over two products, of which one position may be open. -/
def pairStrategy : StrategyDefinition :=
  { hourlyStrategy with
    additionalInstruments := [{ productId := "ETH-USDC", baseCurrency := "ETH" }]
    productsDistinct := by decide
    futuresAlone := ⟨rfl, by simp⟩
    positionsCovered := by decide }

/-- Both products signal on every bar. -/
def pairHistory : History :=
  { hourlyHistory with
    additionalInstrumentCandles := Dict.empty.set "ETH-USDC" hourlyHistory.candles }

theorem pairHistory_capacity :
    ∃ sim books account,
      backtestSimulation hourlyEngine hourlySpecification pairStrategy pairHistory none = .ok sim ∧
      Reachable sim books account ∧ books.length = 2 ∧ books.countP occupied = 1 ∧
      books.countP occupied ≤ sim.strategy.portfolioLimits.maxConcurrentPositions := by
  obtain ⟨sim, books, account, hsim, hreached, hcount⟩ := exists_reachable_midBar hourlyEngine
    hourlySpecification pairStrategy pairHistory 1 1
    (fun _ state => state.1.length = 2 ∧ state.1.countP occupied = 1) (by decide +kernel)
  obtain ⟨hpair, hone⟩ := of_decide_eq_true hcount
  exact ⟨_, books, account, hsim, hreached, hpair, hone, reachable_capacity hreached⟩

/-! ## Resting adds -/

def strandsAdd (sim : Simulation) (offset : Nat) (feed : BookFeed) (book : Book) : Bool :=
  match book.pending, book.position, feed.candleByStart.get? (sim.barStart offset) with
  | some pending, some position, some candle =>
    pending.isPyramidAdd && staysResting pending candle sim.strategy sim.costs &&
      exitDue feed position candle offset sim.strategy sim.costs
  | _, _, _ => false

def Book.restsAdd (book : Book) : Bool := book.pending.any (·.isPyramidAdd)

def Book.AddCovered (strategy : StrategyDefinition) (book : Book) : Prop :=
  ∀ pending ∈ book.pending, pending.isPyramidAdd = true →
    strategy.entry.pyramiding = true ∧ book.position.isSome = true

variable {strategy : StrategyDefinition}

theorem addCovered_of_none (h : book.pending = none) :
    book.AddCovered strategy := by
  simp [Book.AddCovered, h]

section

variable {sim : Simulation} {offset : Nat} {feed : BookFeed} {candle : Candle}
  {desk desk' matched : Desk} {closing : Closing}

theorem EntryMatch.addCovered (hcovered : desk.book.AddCovered sim.strategy)
    (h : EntryMatch desk candle offset sim.strategy sim.costs desk') :
    desk'.book.AddCovered sim.strategy := by
  cases h with
  | idle => exact hcovered
  | @waits pending hpending =>
    rintro _ ⟨⟩ hadd
    exact hcovered pending hpending hadd
  | @reprices pending hpending =>
    rintro _ ⟨⟩ hadd
    exact hcovered pending hpending hadd
  | expires | refuses | fills => exact addCovered_of_none rfl

theorem EntryMatch.add_rests {pending : PendingEntry}
    (h : EntryMatch desk candle offset sim.strategy sim.costs matched)
    (hpending : matched.book.pending = some pending) (hadd : pending.isPyramidAdd = true) :
    matched.book.position = desk.book.position ∧ ∃ before, desk.book.pending = some before ∧
      before.isPyramidAdd = true ∧ staysResting before candle sim.strategy sim.costs = true := by
  cases h with
  | idle hidle => exact absurd (hidle pending hpending).2 (by simp [hadd])
  | @waits before hbefore hstays _ =>
    cases hpending
    exact ⟨rfl, before, hbefore, hadd, hstays⟩
  | @reprices before hbefore hstays =>
    cases hpending
    exact ⟨rfl, before, hbefore, hadd, hstays⟩
  | expires | refuses | fills => exact absurd hpending (by simp [expireEntry])

theorem ExitOutcome.addCovered
    (hspot : sim.strategy.entry.pyramiding = true → sim.costs.futures = none)
    (hcandle : feed.candleByStart.get? (sim.barStart offset) = some candle)
    (hclean : strandsAdd sim offset feed desk.book = false)
    (hcovered : matched.book.AddCovered sim.strategy)
    (hmatch : EntryMatch desk candle offset sim.strategy sim.costs matched)
    (h : ExitOutcome feed matched.book candle offset sim.strategy sim.costs matched.cash sim.bar
      closing) : closing.book.AddCovered sim.strategy := by
  cases h with
  | flat => exact hcovered
  | arms =>
    intro pending hpending hadd
    exact ⟨(hcovered pending hpending hadd).1, rfl⟩
  | @closes held _ _ _ _ _ _ hheld _ hdue =>
    intro pending hpending hadd
    obtain ⟨hsame, before, hbefore, hbeforeAdd, hstays⟩ := hmatch.add_rests hpending hadd
    -- a strategy that pyramids trades spot, so the exit that closed was due
    rcases hdue with hfutures | hdue
    · rw [hspot (hcovered pending hpending hadd).1] at hfutures
      cases hfutures
    · rw [strandsAdd, hbefore, ← hsame, hheld, hcandle] at hclean
      simp [hbeforeAdd, hstays, hdue] at hclean

theorem recordClose_addCovered (h : closing.book.AddCovered sim.strategy) :
    (recordClose desk closing sim.strategy).book.AddCovered sim.strategy := by
  unfold recordClose
  split
  · exact h
  · exact h

theorem FundingOutcome.addCovered {cash : Decimal} (hcovered : desk.book.AddCovered sim.strategy)
    (h : FundingOutcome desk.book sim.costs desk.cash book cash) :
    book.AddCovered sim.strategy := by
  cases h with
  | none => exact hcovered
  | flows =>
    intro pending hpending hadd
    exact ⟨(hcovered pending hpending hadd).1, rfl⟩

theorem BarOutcome.addCovered
    (hspot : sim.strategy.entry.pyramiding = true → sim.costs.futures = none)
    (hcandle : feed.candleByStart.get? (sim.barStart offset) = some candle)
    (hclean : strandsAdd sim offset feed desk.book = false)
    (hcovered : desk.book.AddCovered sim.strategy)
    (h : BarOutcome feed desk candle offset sim.strategy sim.costs sim.bar desk') :
    desk'.book.AddCovered sim.strategy := by
  cases h with
  | expiry _ hexpiry =>
    refine recordClose_addCovered (addCovered_of_none ?_)
    cases hexpiry <;> rfl
  | managed hmatch hexit hfunding =>
    have hcooled : strandsAdd sim offset feed (coolDown desk).book = false := hclean
    have hmatched := hmatch.addCovered (show (coolDown desk).book.AddCovered _ from hcovered)
    have hclosed := hexit.addCovered hspot hcandle hcooled hmatched hmatch
    exact hfunding.addCovered (recordClose_addCovered hclosed)

theorem EntryRest.addCovered {record : SignalTraceRecord} {limitPrice : Decimal}
    {mayOpenBook expiryWindow : Bool} (hcovered : desk.book.AddCovered sim.strategy)
    (h : EntryRest desk record sim.strategy sim.costs limitPrice mayOpenBook expiryWindow desk') :
    desk'.book.AddCovered sim.strategy := by
  cases h with
  | warmup | unmatched | skips => exact hcovered
  | @rests pending hgate hsized =>
    rintro _ ⟨⟩ hadd
    obtain ⟨-, ⟨hflat, -⟩ | ⟨position, hheld, hpyramid⟩⟩ := entryGate_eq_none hgate
    · rw [hflat] at hsized
      obtain ⟨_, _, _, _, -, -, rfl⟩ := sizeEntry_eq_ok hsized
      cases hadd
    · refine ⟨?_, by simp [hheld]⟩
      by_contra hnot
      simp [canPyramidAdd, hnot] at hpyramid

variable (hspot : sim.strategy.entry.pyramiding = true → sim.costs.futures = none)
  (hclean : strandsAdd sim offset feed desk.book = false)
  (hcovered : desk.book.AddCovered sim.strategy)
include hspot hclean hcovered

theorem TurnPoint.addCovered (h : TurnPoint sim offset feed desk desk') :
    desk'.book.AddCovered sim.strategy := by
  have hcooled : (coolDown desk).book.AddCovered sim.strategy := hcovered
  have hcleanCooled : strandsAdd sim offset feed (coolDown desk).book = false := hclean
  cases h with
  | matched _ _ hmatch => exact (matchEntry_cases hmatch).addCovered hcooled
  | exited hcandle _ hmatch hexit =>
    have hmatched := (matchEntry_cases hmatch).addCovered hcooled
    exact recordClose_addCovered ((exitPosition_cases hexit).addCovered hspot
      (lookup_eq_ok.mp hcandle) hcleanCooled hmatched (matchEntry_cases hmatch))
  | processed hcandle hprocess =>
    exact (processBar_cases hprocess).addCovered hspot (lookup_eq_ok.mp hcandle) hclean hcovered

theorem takeTurn_addCovered (h : takeTurn sim offset feed done todo desk = .ok desk') :
    desk'.book.AddCovered sim.strategy := by
  obtain ⟨candle, record, processed, hcandle, -, hbar, hrest⟩ := takeTurn_cases h
  exact hrest.addCovered (hbar.addCovered hspot hcandle hclean hcovered)

end

/-- No bar of the run closes a position and leaves an add of it resting. -/
def StrandsNoAdd (sim : Simulation) : Prop :=
  ∀ bars < sim.evaluationBars, ∀ state, runBars sim bars = .ok state →
    ∀ row ∈ sim.feeds.zip state.books, strandsAdd sim bars row.1 row.2 = false

/-- The condition can be run: every bar's state is computed and its rows are checked. -/
instance (sim : Simulation) : Decidable (StrandsNoAdd sim) :=
  decidable_of_iff (∀ bars ∈ List.range sim.evaluationBars,
      (runBars sim bars).toOption.all (fun state => (sim.feeds.zip state.books).all
        (fun row => !strandsAdd sim bars row.1 row.2)) = true) (by
    constructor
    · intro h bars hbars state hstate row hrow
      have hall := h bars (mem_range.mpr hbars)
      rw [hstate] at hall
      simpa using all_eq_true.mp hall row hrow
    · intro h bars hbars
      cases hstate : runBars sim bars with
      | error => rfl
      | ok state =>
        refine all_eq_true.mpr ?_
        intro row hrow
        simpa using h bars (mem_range.mp hbars) state hstate row hrow)

section

variable {sim : Simulation} (hclean : StrandsNoAdd sim)

include hclean

theorem AtTurn.clean {bars : Nat} {feed : BookFeed} {desk : Desk}
    (hturn : AtTurn sim bars done todo feed desk) : strandsAdd sim bars feed desk.book = false := by
  obtain ⟨hbars, h, hfeed⟩ := hturn
  obtain ⟨state, hstate, h⟩ := bind_eq_ok h
  have hlength := runBars_length hstate
  obtain ⟨hbound, -⟩ := List.getElem?_eq_some_iff.mp hfeed
  have hturns : (sim.feeds.take done.length).length = done.length := by
    rw [length_take]
    omega
  have hdrop := takeTurns_drop (by rw [hturns]; omega) h
  rw [hturns, length_nil, Nat.zero_add, drop_left] at hdrop
  have hbook : state.books[done.length]? = some desk.book := by
    have hhead := congrArg (·[0]?) hdrop
    simpa using hhead.symm
  exact hclean bars hbars state hstate (feed, desk.book)
    (mem_of_getElem? (getElem?_zip_eq_some.mpr ⟨hfeed, hbook⟩))

theorem addCovered_keptByBooks
    (hspot : sim.strategy.entry.pyramiding = true → sim.costs.futures = none) :
    KeptByBooks sim (Book.AddCovered sim.strategy) where
  empty := addCovered_of_none rfl
  turn hturn hcovered h := takeTurn_addCovered hspot (hturn.clean hclean) hcovered h
  point hturn hcovered h := h.addCovered hspot (hturn.clean hclean) hcovered
  closed _ hclose := addCovered_of_none hclose.empty.1

end

/-- While no bar strands an add, a resting add has an open position on its side, and its fill scales
that position. -/
theorem reachable_add_scales {engine : Engine} {specification : ResearchRunSpecification}
    {strategy : StrategyDefinition} {history : History}
    {fundingRates : Option (Dict Time Decimal)} {sim : Simulation}
    (hsim : backtestSimulation engine specification strategy history fundingRates = .ok sim)
    (hclean : StrandsNoAdd sim) {books : List Book} {account : Account}
    (h : Reachable sim books account) :
    ∀ book ∈ books, ∀ pending, book.pending = some pending → pending.isPyramidAdd = true →
      ∃ position, book.position = some position ∧ position.side = pending.side ∧
        ∀ (candle : Candle) (cash : Decimal) (offset : Nat),
          fillPosition book.position (stressedEntry sim.costs.executionStress pending) candle cash
              offset sim.costs =
            scaleIn (stressedEntry sim.costs.executionStress pending) position cash sim.costs := by
  intro book hbook pending hpending hadd
  have hcovered := (addCovered_keptByBooks hclean (backtestSimulation_pyramids hsim)).reachable h
    book hbook
  have hsides := (reachable_invariant (settled_keptBySteps sim) (settled_keptByCloseOut sim) (initial_settled sim) h).consistent book hbook
  obtain ⟨position, hheld⟩ := Option.isSome_iff_exists.mp (hcovered pending hpending hadd).2
  refine ⟨position, hheld, ?_, ?_⟩
  · rw [hsides.positionSide position hheld, hsides.pendingSide pending hpending]
  · intro candle cash offset
    rw [hheld]
    rfl

/-! A strategy that adds once to a winning position and holds for one bar. Where the bar
of the time exit touches the add, the add scales the position before it closes. Where the
bar stays above the add, the exit strands it, and a later bar opens a fresh position
from it. -/

/-- The hourly strategy with one add, whose entries wait for two bars. -/
def pyramidStrategy : StrategyDefinition :=
  { hourlyStrategy with
    entry := { hourlyStrategy.entry with
      maxOpenPositions := 2, pyramiding := true, positionBounds := by simp }
    execution := ⟨⟨2, Nat.le_succ 1, by decide⟩, .cancel⟩
    futuresAlone := ⟨rfl, by simp [hourlyStrategy]⟩
    positionsCovered := by decide }

theorem hourlyHistory_add_scales :
    ∃ sim books account,
      backtestSimulation hourlyEngine hourlySpecification pyramidStrategy hourlyHistory none =
        .ok sim ∧
      StrandsNoAdd sim ∧ Reachable sim books account ∧
      ∃ book ∈ books, ∃ pending position, book.pending = some pending ∧
        pending.isPyramidAdd = true ∧ book.position = some position ∧
        position.side = pending.side := by
  obtain ⟨sim, books, account, hsim, hreached, hcheck⟩ := exists_reachable_midBar hourlyEngine
    hourlySpecification pyramidStrategy hourlyHistory 2 0
    (fun sim state => StrandsNoAdd sim ∧ state.1.any restsAdd = true) (by decide +kernel)
  obtain ⟨hclean, hadds⟩ := of_decide_eq_true hcheck
  obtain ⟨book, hbook, hrests⟩ := any_eq_true.mp hadds
  obtain ⟨pending, hpending, hadd⟩ := (Option.any_eq_true _ _).mp hrests
  obtain ⟨position, hheld, hside, -⟩ :=
    reachable_add_scales hsim hclean hreached book hbook pending hpending hadd
  exact ⟨_, books, account, hsim, hclean, hreached, book, hbook, pending, position,
    hpending, hadd, hheld, hside⟩

abbrev strandedSpecification := fourHourSpecification

/-- The add rests at 103; the next bar never trades below 105. -/
def strandedHistory : History where
  candles := [hourlyBar 0 100, hourlyBar 1 101, hourlyBar 2 100, hourlyBar 3 103,
    { startsAt := CandleInterval.oneHour.duration * 4
      open_ := 106, high := 110, low := 105, close := 108, volume := 1 },
    hourlyBar 5 100, hourlyBar 6 100]

def Book.openedOn (offset : Nat) (book : Book) : Bool :=
  book.position.any (fun position => position.enteredBarIndex = offset ∧ position.addCount = 1)

theorem strandedHistory_opens_fresh :
    ∃ sim before after account account',
      backtestSimulation hourlyEngine strandedSpecification pyramidStrategy strandedHistory none =
        .ok sim ∧
      Reachable sim before account ∧ Reachable sim after account' ∧
      (∃ book ∈ before, book.restsAdd = true ∧ book.position = none) ∧
      ∃ book ∈ after, book.openedOn 3 = true := by
  obtain ⟨⟨sim, ⟨before, account⟩, ⟨after, account'⟩⟩, hrun, hcheck⟩ := exists_eq_ok_of_any (show (do
      let sim ← backtestSimulation hourlyEngine strandedSpecification pyramidStrategy
        strandedHistory none
      let before ← midBar sim 3 0
      let after ← midBar sim 3 1
      return (sim, before, after)).toOption.any
        (fun run : Simulation × (List Book × Account) × (List Book × Account) =>
          3 < run.1.evaluationBars ∧
          run.2.1.1.any (fun book : Book => book.restsAdd && book.position.isNone) = true ∧
          run.2.2.1.any (openedOn 3) = true) = true by decide +kernel)
  obtain ⟨_, hsim, hrun⟩ := bind_eq_ok hrun
  obtain ⟨_, hbefore, hrun⟩ := bind_eq_ok hrun
  obtain ⟨_, hafter, hrun⟩ := bind_eq_ok hrun
  obtain ⟨rfl, hstates⟩ := Prod.mk.inj (Except.ok.inj hrun)
  cases hstates
  obtain ⟨hbars, hstranded, hfresh⟩ := of_decide_eq_true hcheck
  exact ⟨_, before, after, account, account', hsim, .between hbars hbefore,
    .between hbars hafter, by simpa using hstranded, by simpa using hfresh⟩

/-! ## Units -/

/-- The units a book holds, with the add that may still scale them. -/
def Book.units (book : Book) : Nat :=
  book.position.elim 0 (fun position => position.addCount + if book.pending.isSome then 1 else 0)

section

variable {desk desk' : Desk} {candle : Candle} {offset : Nat} {costs : Costs}

theorem fillPosition_addCount {held : Option Position} {pending : PendingEntry}
    {position : Position} {cash cash' : Decimal}
    (h : fillPosition held pending candle cash offset costs = .ok (some (position, cash'))) :
    position.addCount = held.elim 0 (·.addCount) + 1 := by
  cases held with
  | none =>
    obtain ⟨opening, -, h⟩ := bind_eq_ok h
    cases opening with
    | none => cases h
    | some =>
      obtain ⟨-, h⟩ := of_ite_ne h nofun
      cases h
      rfl
  | some =>
    obtain ⟨-, h⟩ := of_ite_ne h nofun
    obtain ⟨price, -, h⟩ := bind_eq_ok h
    cases h
    rfl

theorem EntryMatch.units
    (h : EntryMatch desk candle offset strategy costs desk') :
    desk'.book.units ≤ max 1 desk.book.units := by
  cases h with
  | idle => exact le_max_right _ _
  | waits hpending | reprices hpending => simp [Book.units, hpending]
  | expires | refuses =>
    refine le_max_of_le_right ?_
    unfold Book.units
    cases hposition : desk.book.position with
    | none | some => simp [expireEntry, hposition]
  | fills hpending hfill =>
    simp only [Book.units, Option.elim_some, fillPosition_addCount hfill, hpending]
    cases desk.book.position with
    | none | some => simp

theorem TurnStep.units {sim : Simulation} {feed : BookFeed}
    (h : TurnStep sim offset feed candle done todo desk desk') :
    desk'.book.units ≤ max sim.strategy.entry.maxOpenPositions desk.book.units := by
  have hclosed (desk : Desk) (closing : Closing) :
      (recordClose desk closing sim.strategy).book.units = closing.book.units := by
    unfold recordClose
    split <;> rfl
  cases h with
  | cools => exact le_max_right _ _
  | entry hmatch =>
    have hbounds := sim.strategy.entry.positionBounds
    refine hmatch.units.trans (max_le_max_right _ ?_)
    split at hbounds <;> omega
  | exits hexit =>
    rw [hclosed]
    cases hexit with
    | flat => exact le_max_right _ _
    | arms hheld htrail =>
      obtain ⟨_, _, rfl⟩ := trailPosition_frame htrail
      simp [Book.units, hheld]
    | closes => simp [Book.units]
  | funds hfunding =>
    cases hfunding with
    | none => exact le_max_right _ _
    | flows hheld => simp [Book.units, hheld]
  | flattens _ hexpiry =>
    rw [hclosed]
    cases hexpiry with
    | flat hflat => simp [Book.units, hflat]
    | closes => simp [Book.units]
  | rests hrest =>
    cases hrest with
    | warmup | unmatched | skips => exact le_max_right _ _
    | rests hgate =>
      obtain ⟨-, ⟨hflat, -⟩ | ⟨held, hheld, hadd⟩⟩ := entryGate_eq_none hgate
      · simp [Book.units, hflat]
      · obtain ⟨hroom, -⟩ := of_ite_ne hadd nofun
        simp only [not_or, not_le] at hroom
        refine le_max_of_le_left ?_
        simp only [Book.units, hheld, Option.elim_some, Option.isSome_some, if_true]
        omega

end

/-- In every state of every run a book's units, and the add resting on them, stay within the
strategy's `max_open_positions`. -/
theorem reachable_units {sim : Simulation} {books : List Book} {account : Account}
    (h : Reachable sim books account) :
    ∀ book ∈ books, book.units ≤ sim.strategy.entry.maxOpenPositions := by
  have hkept : KeptBySteps sim
      (fun books _ => ∀ book ∈ books, book.units ≤ sim.strategy.entry.maxOpenPositions) := by
    intro offset feed _ candle done todo desk desk' _ hstep hbooks
    exact forall_exchange hbooks (hstep.units.trans (max_le le_rfl (hbooks _ (by simp))))
  refine reachable_invariant hkept ?_ ?_ h
  · intro feed _ done todo desk desk' hclose hbooks
    exact forall_exchange hbooks (by simp [Book.units, hclose.empty.2])
  · intro book hbook
    obtain ⟨feed, -, rfl⟩ := mem_map.mp hbook
    simp [Book.units]

def pairPyramid : StrategyDefinition :=
  { pairStrategy with
    entry := pyramidStrategy.entry
    execution := pyramidStrategy.execution
    portfolioLimits := { pairStrategy.portfolioLimits with
      maxConcurrentPositions := 2, positionsBounded := by norm_num }
    futuresAlone := ⟨rfl, by simp [pairStrategy]⟩
    positionsCovered := by decide }

/-- Both books hold one unit and rest the add that fills their bound. -/
theorem pairHistory_units :
    ∃ sim books account,
      backtestSimulation hourlyEngine hourlySpecification pairPyramid pairHistory none = .ok sim ∧
      Reachable sim books account ∧ books.map Book.units = [2, 2] ∧
      ∀ book ∈ books, book.units ≤ sim.strategy.entry.maxOpenPositions := by
  obtain ⟨sim, books, account, hsim, hreached, hunits⟩ := exists_reachable_midBar hourlyEngine
    hourlySpecification pairPyramid pairHistory 2 0 (fun _ state => state.1.map Book.units = [2, 2])
    (by decide +kernel)
  exact ⟨sim, books, account, hsim, hreached, of_decide_eq_true hunits, reachable_units hreached⟩

end Thytrader.Backtest
