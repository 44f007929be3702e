import Mathlib.Data.List.Chain
import Thytrader.MarketData.Candles

/-!
# Due bars of a decision clock

`new_closed_bars` of `execution_worker/windows.py`, the bounded publication wait of
`execution/candle_wait.py` and the age of a signal of `execution/freshness.py`.

The selector answers with bars only when they follow the cursor without a hole; every other
answer hands the window to maintenance.
-/

namespace Thytrader.Execution

open MarketData List

/-- `_contiguous`: starts are consecutive bars of one interval. -/
def contiguous (barDuration : Duration) (candles : List Candle) : Bool :=
  candles.IsChain (fun first second => second.startsAt - first.startsAt = barDuration)

/-- `NEWEST_BAR_SETTLE_SECONDS`. -/
def newestBarSettle : Duration := 120 * 1000000

/-- `newest_bar_settling`: exactly the newest bar is absent, and its close is under two minutes
ago. -/
def newestBarSettling (candles : List Candle) (expectedLastStart : Time) (barDuration : Duration)
    (now : Time) : Bool :=
  match candles.getLast? with
  | none => false
  | some latest =>
    let closedAt := expectedLastStart + barDuration
    latest.startsAt = expectedLastStart - barDuration ∧ contiguous barDuration candles ∧
      closedAt ≤ now ∧ now < closedAt + newestBarSettle

/-- The loop over the due bars: each starts where the one before it ended. -/
def inStep (barDuration : Duration) (expected : Time) : List Candle → Bool
  | [] => true
  | candle :: rest =>
    candle.startsAt = expected && inStep barDuration (candle.startsAt + barDuration) rest

/-- `new_closed_bars` on a window that ends with the expected bar. -/
def barsAfter (candles : List Candle) (latest : Candle) (lastEvaluatedBar : Option Time)
    (barDuration : Duration) : Option (List Candle) :=
  match lastEvaluatedBar with
  | none => some [latest]
  | some bar =>
    let due := candles.filter (fun candle => bar < candle.startsAt)
    if inStep barDuration (bar + barDuration) due then some due else none

/-- `new_closed_bars` without a publication wait. -/
def newClosedBarsAt (candles : List Candle) (lastEvaluatedBar : Option Time)
    (expectedLastStart : Time) (barDuration : Duration) : Option (List Candle) :=
  match candles.getLast? with
  | none => none
  | some latest =>
    if contiguous barDuration candles = false then none
    else if latest.startsAt ≠ expectedLastStart then none
    else barsAfter candles latest lastEvaluatedBar barDuration

/-- `new_closed_bars` with `allow_settling`: the due bars, no bar during the publication wait,
or nothing on an unsafe gap. -/
def newClosedBars (candles : List Candle) (lastEvaluatedBar : Option Time)
    (expectedLastStart : Time) (barDuration : Duration) (now : Time) : Option (List Candle) :=
  match candles.getLast? with
  | none => none
  | some latest =>
    if contiguous barDuration candles = false then none
    else if latest.startsAt ≠ expectedLastStart then
      if newestBarSettling candles expectedLastStart barDuration now ∧
          newClosedBarsAt candles lastEvaluatedBar (expectedLastStart - barDuration) barDuration ≠
            none then some []
      else none
    else barsAfter candles latest lastEvaluatedBar barDuration

/-- `_SIGNAL_GRACE_SECONDS`. -/
def signalGrace : Duration := 300 * 1000000

/-- `signal_still_valid`: the bar is not older than its maximum age, and the quote is positive. -/
def signalStillValid (candle : Candle) (interval : CandleInterval) (now : Time)
    (currentQuote : Decimal) : Bool :=
  let age := now - candle.startsAt
  if age < 0 ∨ interval.duration * 2 + signalGrace ≤ age then false else 0 < currentQuote

/-! ## What the selector answers -/

variable {candles due : List Candle} {cursor : Option Time} {expected now : Time}
  {duration : Duration}

theorem inStep_chain (h : inStep duration expected due = true) :
    (due.map (·.startsAt)).IsChain (fun first second => second = first + duration) ∧
      ∀ candle ∈ due.head?, candle.startsAt = expected := by
  induction due generalizing expected with
  | nil => exact ⟨isChain_nil, by simp⟩
  | cons _ rest ih =>
    unfold inStep at h
    rw [Bool.and_eq_true, decide_eq_true_iff] at h
    obtain ⟨hchain, hhead⟩ := ih h.2
    refine ⟨?_, by simpa using h.1⟩
    cases rest with
    | nil => exact isChain_singleton _
    | cons second =>
      exact isChain_cons_cons.mpr ⟨hhead second rfl, hchain⟩

/-- The bars the selector hands out: without a cursor the newest one, else a contiguous window's
bars after it. -/
theorem newClosedBars_due (h : newClosedBars candles cursor expected duration now = some due)
    (hdue : due ≠ []) :
    contiguous duration candles = true ∧
      ((cursor = none ∧ ∃ latest, candles.getLast? = some latest ∧ due = [latest]) ∨
        ∃ bar, cursor = some bar ∧ due = candles.filter (fun candle => bar < candle.startsAt) ∧
          inStep duration (bar + duration) due = true) := by
  unfold newClosedBars at h
  split at h
  · cases h
  next latest hlatest =>
    split at h
    · cases h
    next hcontiguous =>
      refine ⟨by simpa using hcontiguous, ?_⟩
      split at h
      · split at h
        · exact absurd (Option.some.inj h).symm hdue
        · cases h
      · unfold barsAfter at h
        split at h
        · exact .inl ⟨rfl, latest, hlatest, (Option.some.inj h).symm⟩
        next bar =>
          dsimp only at h
          split at h
          next hstep =>
            cases h
            exact .inr ⟨bar, rfl, rfl, hstep⟩
          · cases h

/-- In a contiguous window the bars up to one of its own end with it. -/
theorem getLast?_upTo (hduration : 0 < duration) (h : contiguous duration candles = true)
    {candle : Candle} (hmem : candle ∈ candles) :
    ∃ last, (candles.filter (fun item => item.startsAt ≤ candle.startsAt)).getLast? = some last ∧
      last.startsAt = candle.startsAt := by
  have hchain : candles.IsChain
      (fun first second => second.startsAt - first.startsAt = duration) := of_decide_eq_true h
  have hpairwise : candles.Pairwise (fun first second => first.startsAt < second.startsAt) := by
    have hstrict : candles.IsChain (fun first second => first.startsAt < second.startsAt) := by
      refine hchain.imp ?_
      intro first second hstep
      have hpositive : (0 : Int) < second.startsAt - first.startsAt := by
        rw [hstep]
        exact hduration
      exact Int.sub_pos.mp hpositive
    exact isChain_iff_pairwise.mp hstrict
  obtain ⟨before, after, rfl⟩ := append_of_mem hmem
  rw [pairwise_append] at hpairwise
  obtain ⟨-, hafter, -⟩ := hpairwise
  rw [pairwise_cons] at hafter
  refine ⟨candle, ?_, rfl⟩
  have hnone : after.filter (fun item => item.startsAt ≤ candle.startsAt) = [] := by
    rw [filter_eq_nil_iff]
    intro item hitem
    have hlater := hafter.1 item hitem
    simpa using hlater
  rw [filter_append, filter_cons, if_pos (by simp), hnone]
  simp

end Thytrader.Execution
