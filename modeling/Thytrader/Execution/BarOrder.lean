import Thytrader.Execution.BarCursor
import Thytrader.Execution.StrategyStep

/-!
# Decision bars in order

The runs of a single-product strategy book: its cycles, and whatever else happens to the store
without touching its cursor. Due bars follow the cursor one by one. Maintenance hands the last
candle of the window to the same bar processor without asking whether that candle is due: the order
is kept in every run whose maintained windows end on the cursor's bar or on the next one
(`decision_bars_in_order`), and lost where a window has a hole or lags behind the cursor.
-/

namespace Thytrader.Execution

open Trading Lib List Relation.ReflTransGen OwnView Follows MemoryStore
open MarketData (Candle CandleInterval minuteLength)

/-! ## Order -/

def NextBar (duration : Duration) (state next : BarState) : Prop :=
  ∃ bar, next = state.complete bar ∧ ∀ cursor, state.cursor = some cursor →
    bar.bar = cursor + duration

/-- Bars evaluated one after another. -/
abbrev BarAdvances (duration : Duration) : BarState → BarState → Prop :=
  Relation.ReflTransGen (NextBar duration)

/-- Logged bars follow one another, and the cursor is on the newest. -/
structure InOrder (duration : Duration) (state : BarState) : Prop where
  chain : (state.evaluated.map (·.bar)).IsChain (fun newer older => newer = older + duration)
  head : ∀ newest ∈ state.evaluated.head?, state.cursor = some newest.bar

/-- A cursor that did not go back. -/
def CursorLe (before after : Option Time) : Prop :=
  ∀ bar, before = some bar → ∃ later, after = some later ∧ bar ≤ later

theorem CursorLe.refl (cursor : Option Time) : CursorLe cursor cursor :=
  fun bar hbar => ⟨bar, hbar, le_refl bar⟩

theorem CursorLe.trans {a b c : Option Time} (hab : CursorLe a b) (hbc : CursorLe b c) :
    CursorLe a c := by
  intro bar hbar
  obtain ⟨middle, hmiddle, hle⟩ := hab bar hbar
  obtain ⟨later, hlater, hle'⟩ := hbc middle hmiddle
  exact ⟨later, hlater, hle.trans hle'⟩

section

variable {duration : Duration} {state next : BarState}

theorem NextBar.inOrder (h : NextBar duration state next) (horder : InOrder duration state) :
    InOrder duration next := by
  obtain ⟨bar, rfl, hbar⟩ := h
  refine ⟨?_, ?_⟩
  · show ((bar :: state.evaluated).map (·.bar)).IsChain _
    cases hlog : state.evaluated with
    | nil => exact isChain_singleton _
    | cons newest =>
      have hcursor := horder.head newest (by rw [hlog]; rfl)
      have hchain := horder.chain
      rw [hlog] at hchain
      exact isChain_cons_cons.mpr ⟨hbar newest.bar hcursor, hchain⟩
  · intro newest hnewest
    cases hnewest
    rfl

theorem NextBar.cursorLe (hduration : 0 < duration) (h : NextBar duration state next) :
    CursorLe state.cursor next.cursor := by
  obtain ⟨bar, rfl, hbar⟩ := h
  intro cursor hcursor
  refine ⟨bar.bar, rfl, ?_⟩
  rw [hbar cursor hcursor]
  exact Int.le_add_of_nonneg_right (le_of_lt hduration)

theorem BarAdvances.inOrder (h : BarAdvances duration state next) (horder : InOrder duration state) :
    InOrder duration next := by
  induction h with
  | refl => exact horder
  | tail _ hnext ih => exact hnext.inOrder ih

theorem BarAdvances.cursorLe (hduration : 0 < duration) (h : BarAdvances duration state next) :
    CursorLe state.cursor next.cursor := by
  induction h with
  | refl => exact CursorLe.refl _
  | tail _ hnext ih => exact ih.trans (hnext.cursorLe hduration)

theorem InOrder.nodup (hduration : 0 < duration) (h : InOrder duration state) :
    (state.evaluated.map (·.bar)).Nodup := by
  have hdescending : (state.evaluated.map (·.bar)).IsChain (fun newer older => older < newer) := by
    refine h.chain.imp ?_
    intro newer older hstep
    rw [hstep]
    exact Int.lt_add_of_pos_right older hduration
  exact (isChain_iff_pairwise.mp hdescending).imp (fun hlt => (ne_of_lt hlt).symm)

end

/-! ## One cycle -/

/-- The cycle hands its window to maintenance instead of evaluating due bars. -/
def Maintains (book : StrategyBook) (input : CycleInput) (cursor : Option Time) : Prop :=
  match newClosedBars input.candles cursor (input.expectedLast book) book.interval.duration
      input.bar.now with
  | none => True
  | some due => due = [] ∨ input.htfWhole = false ∨ input.extraWhole = false

/-- The windows that maintenance is given end on the cursor's bar or on the next one. -/
def EndsOnCursor (book : StrategyBook) (input : CycleInput) (cursor : Option Time) : Prop :=
  Maintains book input cursor → ∀ latest ∈ input.candles.getLast?, ∀ bar, cursor = some bar →
    latest.startsAt = bar ∨ latest.startsAt = bar + book.interval.duration

/-- What the parts of a cycle in other modules keep. -/
structure CycleInput.KeepsCursor (input : CycleInput) (book : StrategyBook) : Prop where
  stages : input.bar.stages.KeepCursor book.id book.productId
  verified : ∀ state snapshot, ShowsBar book.id book.productId state snapshot →
    Follows (cursorProtocol book.id book.productId) state (input.maintainVerifiedBooks snapshot)
      (fun after _ => after = state) (fun after => after = state)

/-- A part of a cycle that evaluates bars in order. -/
def KeepsOrder (book : StrategyBook) (state : BarState) (program : Bars Unit) : Prop :=
  Follows (cursorProtocol book.id book.productId) state program
    (fun after _ => BarAdvances book.interval.duration state after)
    (fun after => BarAdvances book.interval.duration state after)

section

variable {book : StrategyBook} {input : CycleInput} {state : BarState}

theorem KeepsOrder.bar {program : Bars DeploymentSnapshot} {rest : DeploymentSnapshot → Bars Unit}
    (h : KeepsBar book.id book.productId state program)
    (hrest : ∀ snapshot, ShowsBar book.id book.productId state snapshot →
      KeepsOrder book state (rest snapshot)) :
    KeepsOrder book state (program >>= rest) := by
  refine bind (h.mono (fun _ _ hpost => hpost) ?_) ?_
  · rintro after rfl
    exact refl
  · intro after snapshot hpost
    obtain ⟨rfl, hshows⟩ := hpost
    exact hrest snapshot hshows

section

variable {program : Bars Unit}
  (h : Follows (cursorProtocol book.id book.productId) state program (fun after _ => after = state)
    (fun after => after = state))
include h

theorem KeepsOrder.after {rest : Unit → Bars Unit} (hrest : KeepsOrder book state (rest ())) :
    KeepsOrder book state (program >>= rest) := by
  refine bind (h.mono (fun _ _ hpost => hpost) ?_) ?_
  · rintro after rfl
    exact refl
  · rintro after value rfl
    exact hrest

theorem keepsOrder_of_keeps : KeepsOrder book state program := by
  refine h.mono ?_ ?_
  · rintro after _ rfl
    exact refl
  · rintro after rfl
    exact refl

end

theorem KeepsOrder.done : KeepsOrder book state (Pure.pure ()) := refl

/-- Rewriting runtime fields of the row just read keeps the state. -/
theorem rewriteRow_follows {write : Deployment → Time → Option Deployment}
    (hwrite : ∀ row now written, write row now = some written → written.id = row.id ∧
      written.productId = row.productId ∧ written.lastEvaluatedBar = row.lastEvaluatedBar) :
    Follows (cursorProtocol book.id book.productId) state (rewriteRow book input write)
      (fun after _ => after = state) (fun after => after = state) := by
  refine bind (read_keeps shared) ?_
  intro after current hpost
  obtain ⟨rfl, hshows⟩ := hpost
  cases hrow : write current.deployment input.bar.now with
  | none => exact rfl
  | some =>
    obtain ⟨hid, hproduct, hcursor⟩ := hwrite _ _ _ hrow
    refine bind (save_keeps shared (hid.trans hshows.id)
      (hproduct.trans hshows.productId) (hcursor.trans hshows.cursor)) ?_
    intro saved _ hsaved
    exact hsaved

variable {written row : Deployment} {due : List Candle}

/-- The pauses and the resume of a cycle keep the cursor of the row. -/
theorem cursor_of_ite {p : Prop} {_ : Decidable p} {value : Deployment}
    (h : (if p then none else some value) = some written)
    (hvalue : value.id = row.id ∧ value.productId = row.productId ∧
      value.lastEvaluatedBar = row.lastEvaluatedBar) :
    written.id = row.id ∧ written.productId = row.productId ∧
      written.lastEvaluatedBar = row.lastEvaluatedBar := by
  obtain ⟨-, h⟩ := of_ite_ne h nofun
  obtain rfl := Option.some.inj h
  exact hvalue

/-- Maintenance of a window that ends on the cursor's bar or the next one. -/
theorem maintainBetweenBars_keeps (hinput : input.KeepsCursor book)
    (hlast : ∀ latest ∈ input.candles.getLast?, ∀ bar, state.cursor = some bar →
      latest.startsAt = bar ∨ latest.startsAt = bar + book.interval.duration) :
    KeepsOrder book state (maintainBetweenBars book input) := by
  refine KeepsOrder.bar (read_keeps shared) ?_
  intro snapshot hshows
  split
  · exact keepsOrder_of_keeps (hinput.verified state snapshot hshows)
  · split
    · exact KeepsOrder.done
    · refine KeepsOrder.bar (read_keeps product) ?_
      intro focused hfocused
      by_cases hsame : ∀ latest ∈ input.candles.getLast?, state.cursor = some latest.startsAt
      · refine KeepsOrder.bar (processClosedBar_keeps hinput.stages product hfocused hsame
          false) ?_
        intro _ _
        exact KeepsOrder.done
      · push Not at hsame
        obtain ⟨latest, hlatest, hcursor⟩ := hsame
        have hadvances : BarAdvances book.interval.duration state
            (state.complete ⟨book.productId, latest.startsAt, false⟩) := by
          refine single ⟨_, rfl, ?_⟩
          intro bar hbar
          rcases hlast latest hlatest bar hbar with heq | hnext
          · exact absurd (hbar.trans (congrArg some heq.symm)) hcursor
          · exact hnext
        have heither : ∀ after, after = state ∨
            after = state.complete ⟨book.productId, latest.startsAt, false⟩ →
            BarAdvances book.interval.duration state after := by
          intro after hafter
          rcases hafter with rfl | rfl
          · exact refl
          · exact hadvances
        refine bind ((processClosedBar_follows hinput.stages product hfocused
          hlatest hcursor false).mono (fun _ _ hpost => hpost) heither) ?_
        intro after _ hafter
        exact heither after hafter

theorem evaluateDueBars_follows (hinput : input.KeepsCursor book)
    (hcontiguous : contiguous book.interval.duration input.candles = true)
    (hdue : ∀ candle ∈ due, candle ∈ input.candles) (hchain : (due.map (·.startsAt)).IsChain
      (fun first second => second = first + book.interval.duration))
    (hhead : ∀ candle ∈ due.head?, ∀ bar, state.cursor = some bar →
      candle.startsAt = bar + book.interval.duration) :
    KeepsOrder book state (evaluateDueBars book input due) := by
  induction due generalizing state with
  | nil => exact KeepsOrder.done
  | cons candle rest ih =>
    refine KeepsOrder.bar (read_keeps shared) ?_
    intro current hshows
    split
    · exact KeepsOrder.done
    next hstatus =>
      have hpositive := CandleInterval.duration_pos book.interval
      obtain ⟨last, hlast, hstart⟩ := getLast?_upTo hpositive hcontiguous
        (hdue candle (mem_cons_self ..))
      have hfirst := hhead candle rfl
      have hfresh : state.cursor ≠ some last.startsAt := by
        intro heq
        have hnext := hfirst last.startsAt heq
        rw [hstart] at hnext
        exact absurd hnext (ne_of_lt (Int.lt_add_of_pos_right candle.startsAt hpositive))
      generalize (rest.isEmpty && signalStillValid candle book.interval input.bar.now candle.close &&
        !input.entryGate candle) = allowNewEntries
      have hstep : NextBar book.interval.duration state
          (state.complete ⟨book.productId, last.startsAt, allowNewEntries⟩) := by
        refine ⟨_, rfl, ?_⟩
        intro bar hbar
        rw [hstart]
        exact hfirst bar hbar
      refine bind ((processClosedBar_evaluates hinput.stages shared hshows hlast
        hstatus hfresh allowNewEntries).mono (fun _ _ hpost => hpost) ?_) ?_
      · intro after hafter
        rcases hafter with rfl | rfl
        · exact refl
        · exact single hstep
      · intro after _ hpost
        obtain ⟨rfl, -⟩ := hpost
        have hrest : KeepsOrder book (state.complete ⟨book.productId, last.startsAt, allowNewEntries⟩)
            (evaluateDueBars book input rest) := by
          refine ih (fun item hitem => hdue item (mem_cons_of_mem _ hitem)) ?_ ?_
          · rw [map_cons] at hchain
            exact hchain.tail
          · intro second hsecond bar hbar
            cases hbar
            cases rest with
            | nil => cases hsecond
            | cons =>
              cases hsecond
              rw [map_cons, map_cons] at hchain
              rw [(isChain_cons_cons.mp hchain).1, hstart]
        exact hrest.mono (fun _ _ hafter => head hstep hafter)
          (fun _ hafter => head hstep hafter)

theorem KeepsOrder.then {first second : Bars Unit} (h : KeepsOrder book state first)
    (hsecond : ∀ after, KeepsOrder book after second) :
    KeepsOrder book state (first >>= fun _ => second) := by
  refine bind h ?_
  intro after _ hafter
  exact (hsecond after).mono (fun _ _ hlater => hafter.trans hlater)
    (fun _ hlater => hafter.trans hlater)

section

variable (hinput : input.KeepsCursor book)
include hinput

theorem superviseWithoutDecisionCandles_keeps :
    KeepsOrder book state (superviseWithoutDecisionCandles book input) := by
  refine KeepsOrder.after (rewriteRow_follows
    (fun _ _ _ hrow => by exact cursor_of_ite hrow ⟨rfl, rfl, rfl⟩)) ?_
  refine KeepsOrder.bar (read_keeps shared) ?_
  intro current hshows
  exact keepsOrder_of_keeps (hinput.verified state current hshows)

/-- The due bars of a cycle, with the gaps of its other windows. -/
theorem advanceDueBars_keeps {snapshot : DeploymentSnapshot}
    (hshows : ShowsBar book.id book.productId state snapshot)
    (hdue : newClosedBars input.candles state.cursor (input.expectedLast book)
      book.interval.duration input.bar.now = some due)
    (hlast : due = [] ∨ input.htfWhole = false ∨ input.extraWhole = false →
      ∀ latest ∈ input.candles.getLast?, ∀ bar, state.cursor = some bar →
        latest.startsAt = bar ∨ latest.startsAt = bar + book.interval.duration) :
    KeepsOrder book state (advanceDueBars book input snapshot due) := by
  unfold advanceDueBars
  split
  next hnone =>
    exact maintainBetweenBars_keeps hinput (hlast (.inl (getLast?_eq_none_iff.mp hnone)))
  next newest hnewest =>
    split
    next hhtf =>
      refine KeepsOrder.after (rewriteRow_follows
        (fun _ _ _ hrow => by exact cursor_of_ite hrow ⟨rfl, rfl, rfl⟩)) ?_
      exact maintainBetweenBars_keeps hinput (hlast (.inr (.inl hhtf)))
    · refine KeepsOrder.then ?_ (fun after => keepsOrder_of_keeps (rewriteRow_follows
        (fun _ _ _ hrow => by exact cursor_of_ite hrow ⟨rfl, rfl, rfl⟩)))
      unfold evaluateStrategyDueBars
      split
      next hextra =>
        have hsave := @save_keeps book.id book.productId state .shared shared
          (pausedWith indicatorTimeframeGap snapshot.deployment input.bar.now) hshows.id
          hshows.productId hshows.cursor
        refine bind (hsave.mono (fun _ _ hpost => hpost) ?_) ?_
        · rintro after rfl
          exact refl
        · rintro after saved rfl
          exact maintainBetweenBars_keeps hinput (hlast (.inr (.inr hextra)))
      · have hnonempty : due ≠ [] := by
          rintro rfl
          cases hnewest
        obtain ⟨hcontiguous, hcases⟩ := newClosedBars_due hdue hnonempty
        rcases hcases with ⟨hcursor, latest, hlatest, rfl⟩ | ⟨bar, hcursor, rfl, hstep⟩
        · refine evaluateDueBars_follows hinput hcontiguous ?_ (isChain_singleton _) ?_
          · intro candle hcandle
            rw [mem_singleton.mp hcandle]
            exact mem_of_getLast? hlatest
          · intro candle _ bar hbar
            rw [hcursor] at hbar
            cases hbar
        · obtain ⟨hchain, hhead⟩ := inStep_chain hstep
          refine evaluateDueBars_follows hinput hcontiguous ?_ hchain ?_
          · intro candle hcandle
            exact (mem_filter.mp hcandle).1
          · intro candle hcandle found hfound
            rw [hcursor] at hfound
            cases hfound
            exact hhead candle hcandle

/-- A cycle whose maintained window ends on the cursor's bar or the next one. -/
theorem advanceStrategyReady_keeps (hends : EndsOnCursor book input state.cursor) :
    KeepsOrder book state (advanceStrategyReady book input) := by
  refine KeepsOrder.bar (read_keeps shared) ?_
  intro snapshot hshows
  split
  · exact superviseWithoutDecisionCandles_keeps hinput
  · rw [hshows.cursor]
    unfold EndsOnCursor Maintains at hends
    split
    next hnone =>
      rw [hnone] at hends
      refine KeepsOrder.after (rewriteRow_follows
        (fun _ _ _ hrow => by exact cursor_of_ite hrow ⟨rfl, rfl, rfl⟩)) ?_
      exact maintainBetweenBars_keeps hinput (hends trivial)
    next due hdue =>
      rw [hdue] at hends
      exact advanceDueBars_keeps hinput hshows hdue hends

end

end

/-! ## Runs -/

/-- The store, the log and the clock of the last cycle. -/
structure CycleState where
  log : BarLog
  clock : Time

/-- A cycle of the book, or another call of the store. -/
inductive BarEvent where
  | cycle (input : CycleInput)
  | elsewhere (call : StoreCall)

/-- `last_evaluated_bar` of a book. -/
def StrategyBook.cursor (book : StrategyBook) (state : CycleState) : Option Time :=
  (state.log.store.deployments.get? book.id).bind (·.lastEvaluatedBar)

/-- Cycles on a clock that does not go back, and calls that leave the book's cursor. -/
def BookStep (book : StrategyBook) (before : CycleState) (event : BarEvent)
    (after : CycleState) : Prop :=
  match event with
  | .cycle input =>
    input.KeepsCursor book ∧ before.clock ≤ input.bar.now ∧
      after = ⟨((advanceStrategyReady book input).run execBar before.log).2, input.bar.now⟩
  | .elsewhere call =>
    KeepsCursor book.id book.productId (book.cursor before) call ∧
      after = ⟨{ before.log with store := call.run before.log.store }, before.clock⟩

/-- A step whose window, where it is maintained, ends on the cursor's bar or the next one. -/
def OrderedStep (book : StrategyBook) (before : CycleState) (event : BarEvent)
    (after : CycleState) : Prop :=
  BookStep book before event after ∧
    ∀ input, event = .cycle input → EndsOnCursor book input (book.cursor before)

/-- A stored book of which no bar is logged yet. -/
def Begins (book : StrategyBook) (state : CycleState) : Prop :=
  (∃ cursor, SingleBook book.id book.productId cursor state.log.store) ∧ state.log.evaluated = []

/-- Between two states of a run the cursor did not go back, no bar is logged twice, and the logged
bars follow one another without a hole. -/
structure EachBarInOrder (book : StrategyBook) (middle final : CycleState) : Prop where
  cursor : CursorLe (book.cursor middle) (book.cursor final)
  once : (final.log.evaluated.map (·.bar)).Nodup
  consecutive : (final.log.evaluated.map (·.bar)).IsChain
    (fun newer older => newer = older + book.interval.duration)

section

variable {book : StrategyBook} {before after : CycleState} {state : BarState}

theorem BarState.Holds.cursor_eq (h : state.Holds book.id book.productId before.log) :
    book.cursor before = state.cursor := by
  obtain ⟨row, hrow, -, hcursor⟩ := h.book.row
  unfold StrategyBook.cursor
  rw [hrow]
  exact hcursor

theorem OrderedStep.advances {event : BarEvent} (hstep : OrderedStep book before event after)
    (h : state.Holds book.id book.productId before.log) :
    ∃ next, BarAdvances book.interval.duration state next ∧
      next.Holds book.id book.productId after.log := by
  obtain ⟨hbook, hends⟩ := hstep
  cases event with
  | cycle input =>
    obtain ⟨hinput, -, rfl⟩ := hbook
    have hwindow := hends input rfl
    rw [h.cursor_eq] at hwindow
    obtain ⟨next, hholds, hcaught⟩ := run
      (@cursorProtocol_sound book.id book.productId) (advanceStrategyReady_keeps hinput hwindow) h
    refine ⟨next, ?_, hholds⟩
    unfold Follows.Caught at hcaught
    split at hcaught
    · exact hcaught
    · exact hcaught
  | elsewhere call =>
    obtain ⟨hcall, rfl⟩ := hbook
    rw [h.cursor_eq] at hcall
    exact ⟨state, refl, h.book.call hcall, h.evaluated⟩

theorem run_advances {events : List BarEvent} (hrun : Run (OrderedStep book) before events after)
    (h : state.Holds book.id book.productId before.log) :
    ∃ next, BarAdvances book.interval.duration state next ∧
      next.Holds book.id book.productId after.log := by
  induction hrun generalizing state with
  | nil => exact ⟨state, refl, h⟩
  | cons hfirst _ ih =>
    obtain ⟨middle, hmiddle, hholds⟩ := hfirst.advances h
    obtain ⟨final, hfinal, hlast⟩ := ih hholds
    exact ⟨final, hmiddle.trans hfinal, hlast⟩

/-- In every run whose maintained windows end on the cursor's bar or the next one, the cursor never
goes back, and the evaluated bars follow one another, each once. -/
theorem decision_bars_in_order (book : StrategyBook) {start middle final : CycleState}
    {earlier later : List BarEvent} (hstart : Begins book start)
    (hearlier : Run (OrderedStep book) start earlier middle)
    (hlater : Run (OrderedStep book) middle later final) :
    EachBarInOrder book middle final := by
  obtain ⟨⟨cursor, hbook⟩, hempty⟩ := hstart
  have hholds : (BarState.mk cursor []).Holds book.id book.productId start.log := ⟨hbook, hempty⟩
  have horder : InOrder book.interval.duration (BarState.mk cursor []) :=
    ⟨isChain_nil, by simp⟩
  have hpositive := CandleInterval.duration_pos book.interval
  obtain ⟨reached, hreached, hmiddle⟩ := run_advances hearlier hholds
  obtain ⟨last, hlast, hfinal⟩ := run_advances hlater hmiddle
  have hordered := BarAdvances.inOrder (hreached.trans hlast) horder
  refine ⟨?_, ?_, ?_⟩
  · rw [hmiddle.cursor_eq, hfinal.cursor_eq]
    exact BarAdvances.cursorLe hpositive hlast
  · rw [hfinal.evaluated]
    exact hordered.nodup hpositive
  · rw [hfinal.evaluated]
    exact hordered.chain

end

/-! ## Windows with a hole, and windows that lag -/

/-- A book that waits for its entry (`_manage_working_entry`) and marks its exit
(`_mark_pending_exit`); its other stages have nothing to do. -/
def waitingStages (now : Time) : BarStages where
  matchRestingOrders _ snapshot _ := return snapshot
  manageWorkingEntry view snapshot _ _ := view.saveAndRead (withRuntime snapshot.deployment now
    { pendingEntryBars := some (snapshot.deployment.pendingEntryBars + 1) })
  exitTrailAndProtect view snapshot _ _ :=
    view.saveAndRead (withRuntime snapshot.deployment now { phase := some .pendingExit })
  applyCircuitBreakers _ snapshot _ := return snapshot
  maybeEnter _ snapshot _ _ := return snapshot
  persistPerformance _ snapshot _ := return snapshot
  settleFlatBook _ snapshot := return snapshot
  ensureExitProtection _ snapshot _ := return snapshot

theorem waitingStages_keepCursor (now : Time) :
    (waitingStages now).KeepCursor 1 "BTC-USD" where
  matchRestingOrders _ _ _ _ _ h := KeepsBar.pure h
  manageWorkingEntry _ _ _ _ _ hview h := withRuntime_keeps hview h now rfl
  exitTrailAndProtect _ _ _ _ _ hview h := withRuntime_keeps hview h now rfl
  applyCircuitBreakers _ _ _ _ _ h := KeepsBar.pure h
  maybeEnter _ _ _ _ _ _ h := KeepsBar.pure h
  persistPerformance _ _ _ _ _ h := KeepsBar.pure h
  settleFlatBook _ _ _ _ h := KeepsBar.pure h
  ensureExitProtection _ _ _ _ _ h := KeepsBar.pure h

def minuteBook : StrategyBook := ⟨1, "BTC-USD", .oneMinute⟩

def minuteRow : Deployment :=
  { id := 1, strategyFingerprint := some "f", strategyId := none, productId := "BTC-USD"
    mode := .paper, status := .running, cash := 1000, phase := .flat, createdAt := 0, updatedAt := 0
    timeframe := some "1m" }

def minuteCycle (now : Int) (starts : List Int) : CycleInput where
  bar := ⟨waitingStages (now * minuteLength), fun _ => false, now * minuteLength⟩
  candles := starts.map (fun start => ⟨start * minuteLength, 100, 100, 100, 100, 1⟩)
  htfWhole := true
  extraWhole := true
  entryGate _ := false
  maintainVerifiedBooks _ := return ()

/-- The book, created and never evaluated. -/
def minuteStart : CycleState := ⟨⟨empty.createDeployment minuteRow, []⟩, 0⟩

def CycleState.after (state : CycleState) (input : CycleInput) : CycleState :=
  ⟨((advanceStrategyReady minuteBook input).run execBar state.log).2, input.bar.now⟩

def CycleState.loggedMinutes (state : CycleState) : List Int :=
  state.log.evaluated.map (fun bar => bar.bar / minuteLength)

theorem minuteBook_begins : Begins minuteBook minuteStart := by
  refine ⟨⟨none, ?_, ?_, minuteRow, rfl, rfl, rfl⟩, rfl⟩
  · intro id row hrow
    have hget : minuteStart.log.store.deployments.get? id =
        if id = minuteRow.id then some minuteRow else none := Dict.get?_set ..
    rw [hget] at hrow
    obtain ⟨hid, hrow⟩ := of_ite_ne_else hrow nofun
    cases hrow
    exact hid.symm
  · intro key runtime hruntime
    exact absurd hruntime (by simp [minuteStart, createDeployment,
      putDeployment, empty])

theorem minuteCycle_step {state : CycleState} {now : Int} {starts : List Int}
    (hclock : state.clock ≤ now * minuteLength) :
    BookStep minuteBook state (.cycle (minuteCycle now starts))
      (state.after (minuteCycle now starts)) :=
  ⟨⟨waitingStages_keepCursor _, fun _ _ _ => rfl⟩, hclock, rfl⟩

/-- A window with a hole between minutes 1 and 3, filled in later: minute 2 is never evaluated. A
window that misses the bar just evaluated and has it again: the cursor goes back, and minute 2 is
evaluated twice. -/
theorem maintenance_loses_bar_order :
    Begins minuteBook minuteStart ∧
      (∃ final, Run (BookStep minuteBook) minuteStart
          [.cycle (minuteCycle 2 [0, 1]), .cycle (minuteCycle 4 [0, 1, 3]),
            .cycle (minuteCycle 5 [0, 1, 2, 3, 4])] final ∧
        final.loggedMinutes = [4, 3, 1] ∧ ¬ EachBarInOrder minuteBook minuteStart final) ∧
      ∃ middle later final, Run (BookStep minuteBook) minuteStart
          [.cycle (minuteCycle 3 [0, 1, 2])] middle ∧
        Run (BookStep minuteBook) middle [.cycle (minuteCycle 3 [0, 1])] later ∧
        Run (BookStep minuteBook) later [.cycle (minuteCycle 3 [0, 1, 2])] final ∧
        final.loggedMinutes = [2, 1, 2] ∧ ¬ EachBarInOrder minuteBook middle later ∧
        ¬ EachBarInOrder minuteBook minuteStart final := by
  have hcursor : minuteBook.cursor (minuteStart.after (minuteCycle 3 [0, 1, 2])) =
      some 120000000 := by decide +kernel
  refine ⟨minuteBook_begins, ⟨_, .cons (minuteCycle_step (by decide)) (.cons (minuteCycle_step
    (by decide)) (.cons (minuteCycle_step (by decide)) (.nil _))), by decide +kernel, ?_⟩,
    _, _, _, .cons (minuteCycle_step (by decide)) (.nil _), .cons (minuteCycle_step (by decide))
      (.nil _), .cons (minuteCycle_step (by decide)) (.nil _), by decide +kernel, ?_, ?_⟩
  · intro h
    have hchain := h.consecutive
    exact absurd hchain (by decide)
  · intro h
    obtain ⟨later, hlater, hle⟩ := h.cursor 120000000 hcursor
    cases hlater
    exact absurd hle (by decide)
  · intro h
    have honce := h.once
    exact absurd honce (by decide)

/-- Two whole windows one minute apart. -/
theorem decision_bars_in_order_minutes :
    EachBarInOrder minuteBook (minuteStart.after (minuteCycle 2 [0, 1]))
      ((minuteStart.after (minuteCycle 2 [0, 1])).after (minuteCycle 3 [0, 1, 2])) := by
  refine decision_bars_in_order minuteBook minuteBook_begins
    (.cons ⟨minuteCycle_step (by decide), ?_⟩ (.nil _))
    (.cons ⟨minuteCycle_step (by decide), ?_⟩ (.nil _))
  · intro input _ _ latest _ bar hbar
    cases hbar
  · intro input hinput _ latest hlatest bar hbar
    obtain rfl := BarEvent.cycle.inj hinput
    cases hbar
    cases hlatest
    exact .inr rfl

end Thytrader.Execution
