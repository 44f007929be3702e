import Mathlib.Data.List.SplitBy
import Thytrader.Lib.Spans
import Thytrader.MarketData.NoTrade

/-!
# Provider pages and their gaps

`market_data_worker/pages.py`: one provider report becomes a page of gap-free runs, and a page and
its re-fetch merge into one. On the page's grid the bars and the gaps are exact complements
(`page_gaps_exact`).

Mirroring notes: the loop of `_gap_free_runs` is `List.splitBy`, an `IndexError` on an empty run
is `none`.
-/

namespace Thytrader.MarketData

open Lib List

/-- What a page reads of a `CandleQualityReport`. -/
structure CandleQualityReport where
  candles : List Candle
  candleCount : Int
  gapCount : Int
  missingIntervals : Int

structure CandleRangeReport where
  startsAt : Time
  endsAt : Time
  requestedCandleCount : Int
  quality : CandleQualityReport
  complete : Bool

abbrev CandleRun := List Candle

def runEnd (run : CandleRun) (interval : CandleInterval) : Option Time :=
  run.getLast?.map (·.startsAt + interval.duration)

structure CandlePage where
  startsAt : Time
  endsAt : Time
  interval : CandleInterval
  runs : List CandleRun
  complete : Bool
  consistent : Bool

namespace CandlePage

/-- The loop of `gaps` from the next expected start on. -/
def gapsFrom (page : CandlePage) (expected : Time) : List CandleRun → Option (List (Time × Time))
  | [] => some (if expected < page.endsAt then [(expected, page.endsAt)] else [])
  | run :: runs => do
    let first ← run.head?
    let later ← page.gapsFrom (← runEnd run page.interval) runs
    return if expected < first.startsAt then (expected, first.startsAt) :: later else later

def gaps (page : CandlePage) : Option (List (Time × Time)) := page.gapsFrom page.startsAt page.runs

def firstUnsettledMissing (page : CandlePage) (cutoff : Time) : Option (Option Time) :=
  page.gaps.map (firstFrom cutoff)

def candles (page : CandlePage) : List Candle := page.runs.flatten

end CandlePage

def isCompleteMatch (report : CandleRangeReport) (startsAt endsAt : Time) : Bool :=
  report.complete ∧ report.startsAt = startsAt ∧ report.endsAt = endsAt ∧
    report.requestedCandleCount = report.quality.candleCount ∧ report.quality.gapCount = 0 ∧
    report.quality.missingIntervals = 0 ∧
    report.quality.candles.length = report.requestedCandleCount

def onGrid (candles : List Candle) (startsAt endsAt : Time) (interval : CandleInterval) : Bool :=
  (∀ candle ∈ candles, startsAt ≤ candle.startsAt ∧ candle.startsAt < endsAt ∧
    (candle.startsAt - startsAt) % interval.duration = 0) ∧
  candles.IsChain (fun earlier later => later.startsAt > earlier.startsAt)

def gapFreeRuns (candles : List Candle) (interval : CandleInterval) : List CandleRun :=
  candles.splitBy (fun current candle => candle.startsAt = current.startsAt + interval.duration)

def splitPage (report : CandleRangeReport) (startsAt endsAt : Time) (interval : CandleInterval) :
    CandlePage :=
  let requested := (endsAt - startsAt) / interval.duration
  let candles := report.quality.candles
  if isCompleteMatch report startsAt endsAt then
    ⟨startsAt, endsAt, interval, [candles], true, true⟩
  else
    let consistent : Bool := report.startsAt = startsAt ∧ report.endsAt = endsAt ∧
      candles.length < requested ∧ onGrid candles startsAt endsAt interval
    let runs := if consistent then gapFreeRuns candles interval else []
    ⟨startsAt, endsAt, interval, runs, false, consistent⟩

def mergeConfirmedPages (first confirmation : CandlePage) : CandlePage :=
  if confirmation.consistent = false ∨ first.consistent = false then confirmation
  else
    let candles := mergeConfirmedCandles first.candles confirmation.candles
    let requested := (confirmation.endsAt - confirmation.startsAt) / confirmation.interval.duration
    { confirmation with
      runs := gapFreeRuns candles confirmation.interval
      complete := candles.length = requested
      consistent := true }

/-! ## Exact pages -/

def starts (candles : List Candle) : List Time := candles.map Candle.startsAt

/-- A page of a request: the runs are gap free, their bars lie on the grid of the range, and the
page is complete when they fill it. -/
structure CandlePage.Exact (page : CandlePage) (startsAt endsAt : Time)
    (interval : CandleInterval) : Prop where
  request : page.startsAt = startsAt ∧ page.endsAt = endsAt ∧ page.interval = interval
  grid : OnGrid interval.duration startsAt endsAt (starts page.candles)
  runs : ∀ run ∈ page.runs, run ≠ [] ∧
    run.IsChain (fun earlier later => later.startsAt = earlier.startsAt + interval.duration)
  complete : page.complete = true ↔
    page.candles.length * interval.duration = endsAt - startsAt

variable {page : CandlePage} {interval : CandleInterval} {startsAt endsAt : Time}

/-- Joining a run: only its first start can open a span. -/
theorem openSpans_run {first : Candle} {run : List Candle}
    (h : (first :: run).IsChain (fun earlier later =>
      later.startsAt = earlier.startsAt + interval.duration)) {later : List Candle} {next : Time}
    (hnext : runEnd (first :: run) interval = some next) (expected : Time) :
    openSpans interval.duration endsAt expected (starts (first :: run ++ later)) =
      if expected < first.startsAt then
        (expected, first.startsAt) :: openSpans interval.duration endsAt next (starts later)
      else openSpans interval.duration endsAt next (starts later) := by
  have hrest : openSpans interval.duration endsAt (first.startsAt + interval.duration)
      (starts (run ++ later)) = openSpans interval.duration endsAt next (starts later) := by
    induction run generalizing first with
    | nil =>
      cases hnext
      rfl
    | cons second run ih =>
      rw [isChain_cons_cons] at h
      have hnot : ¬ first.startsAt + interval.duration < second.startsAt := h.1.not_gt
      rw [cons_append, starts, map_cons, openSpans, if_neg hnot]
      exact ih h.2 (by rwa [runEnd, getLast?_cons_cons] at hnext)
  rw [← hrest]
  rfl

theorem CandlePage.Exact.gaps (h : page.Exact startsAt endsAt interval) :
    page.gaps = some (openSpans interval.duration endsAt startsAt (starts page.candles)) := by
  obtain ⟨rfl, rfl, rfl⟩ := h.request
  have hfrom (expected : Time) (runs : List CandleRun) (hruns : ∀ run ∈ runs, run ≠ [] ∧
      run.IsChain (fun earlier later =>
        later.startsAt = earlier.startsAt + page.interval.duration)) :
      page.gapsFrom expected runs =
        some (openSpans page.interval.duration page.endsAt expected (starts runs.flatten)) := by
    induction runs generalizing expected with
    | nil => rfl
    | cons run runs ih =>
      obtain ⟨hne, hchain⟩ := hruns run (by simp)
      cases run with
      | nil => exact absurd rfl hne
      | cons first run =>
        obtain ⟨last, hlast⟩ := Option.isSome_iff_exists.mp
          (getLast?_isSome.mpr (cons_ne_nil first run))
        have hnext : runEnd (first :: run) page.interval =
            some (last.startsAt + page.interval.duration) := by
          rw [runEnd, hlast]
          rfl
        rw [flatten_cons, openSpans_run hchain hnext]
        simp only [gapsFrom, head?_cons, hnext, ih _ fun run h => hruns run (mem_cons_of_mem _ h)]
        rfl
  exact hfrom _ _ h.runs

theorem gapFreeRuns_spec (candles : List Candle) :
    (gapFreeRuns candles interval).flatten = candles ∧
    ∀ run ∈ gapFreeRuns candles interval, run ≠ [] ∧ run.IsChain (fun earlier later =>
      later.startsAt = earlier.startsAt + interval.duration) := by
  refine ⟨flatten_splitBy _ candles, fun run hrun => ⟨fun h => ?_, ?_⟩⟩
  · exact nil_notMem_splitBy _ candles (h ▸ hrun)
  · exact (isChain_of_mem_splitBy hrun).imp fun _ _ h => of_decide_eq_true h

variable {candles : List Candle}

/-! ## Split and merged pages -/

theorem isSome_candlesByStart (h : Ascending candles) {t : Time}
    (ht : t ∈ starts candles) : ((candlesByStart candles).get? t).isSome := by
  obtain ⟨candle, hcandle, rfl⟩ := mem_map.mp ht
  rw [candlesByStart_of_ascending h hcandle]
  rfl

/-- A merge has a bar where one of the responses has one. -/
theorem mem_starts_merge {first confirmation : List Candle} (hfirst : Ascending first)
    (hconfirmation : Ascending confirmation) (t : Time) :
    t ∈ starts (mergeConfirmedCandles first confirmation) ↔
      t ∈ starts first ∨ t ∈ starts confirmation := by
  constructor
  · intro h
    obtain ⟨candle, hcandle, rfl⟩ := mem_map.mp h
    rw [mem_mergeConfirmedCandles, Option.or_eq_some_iff] at hcandle
    obtain hget | ⟨-, hget⟩ := hcandle
    · exact .inr (mem_map_of_mem (startsAt_of_candlesByStart hget).1)
    · exact .inl (mem_map_of_mem (startsAt_of_candlesByStart hget).1)
  · intro h
    have hsome : (((candlesByStart confirmation).get? t).or
        ((candlesByStart first).get? t)).isSome := by
      rw [Option.isSome_or, Bool.or_eq_true]
      exact h.symm.imp (isSome_candlesByStart hconfirmation) (isSome_candlesByStart hfirst)
    obtain ⟨candle, hcandle⟩ := Option.isSome_iff_exists.mp hsome
    obtain rfl := startsAt_of_merged hcandle
    exact mem_map_of_mem (mem_mergeConfirmedCandles.mpr hcandle)

/-- What `analyze_range` promises of a report that it flags complete: its own bar count, and
increasing bars on its own grid. -/
def CandleRangeReport.Truthful (report : CandleRangeReport) (interval : CandleInterval) : Prop :=
  report.complete = true →
    report.requestedCandleCount = (report.endsAt - report.startsAt) / interval.duration ∧
      onGrid report.quality.candles report.startsAt report.endsAt interval = true

variable (haligned : interval.duration ∣ endsAt - startsAt)
include haligned

theorem onGrid_spec (h : onGrid candles startsAt endsAt interval = true) :
    OnGrid interval.duration startsAt endsAt (starts candles) := by
  obtain ⟨hwithin, hchain⟩ := of_decide_eq_true h
  refine ⟨pairwise_map.mpr (isChain_iff_pairwise.mp hchain), fun start hstart => ?_⟩
  obtain ⟨candle, hcandle, rfl⟩ := mem_map.mp hstart
  obtain ⟨hfrom, hto, hgrid⟩ := hwithin candle hcandle
  have hgrid := Int.dvd_of_emod_eq_zero hgrid
  have hdvd := Int.dvd_sub haligned hgrid
  rw [sub_sub_sub_cancel_right] at hdvd
  have := Int.le_of_dvd (sub_pos.mpr hto) hdvd
  exact ⟨hfrom, by omega, hgrid⟩

theorem eq_requested_iff (count : ℤ) :
    count = (endsAt - startsAt) / interval.duration ↔
      count * interval.duration = endsAt - startsAt := by
  constructor
  · rintro rfl
    exact Int.ediv_mul_cancel haligned
  · intro h
    rw [← h, Int.mul_ediv_cancel _ interval.duration_pos.ne']

/-- A page made of the runs of bars on its grid. -/
theorem exact_gapFreeRuns {complete consistent : Bool}
    (hgrid : OnGrid interval.duration startsAt endsAt (starts candles))
    (hcomplete : complete = true ↔ candles.length = (endsAt - startsAt) / interval.duration) :
    (CandlePage.mk startsAt endsAt interval (gapFreeRuns candles interval) complete
      consistent).Exact startsAt endsAt interval := by
  obtain ⟨hflatten, hruns⟩ := @gapFreeRuns_spec interval candles
  refine ⟨⟨rfl, rfl, rfl⟩, ?_, hruns, ?_⟩
  · rwa [CandlePage.candles, hflatten]
  · rwa [CandlePage.candles, hflatten, ← eq_requested_iff haligned]

variable {report : CandleRangeReport}

theorem exact_splitPage (hrange : startsAt < endsAt) (h : report.Truthful interval) :
    (splitPage report startsAt endsAt interval).Exact startsAt endsAt interval := by
  unfold splitPage
  split
  next hmatch =>
    obtain ⟨hcomplete, rfl, rfl, -, -, -, hcount⟩ := of_decide_eq_true hmatch
    obtain ⟨hrequested, hgrid⟩ := h hcomplete
    have hgrid := onGrid_spec haligned hgrid
    have hfull := (eq_requested_iff haligned _).mp (hcount.trans hrequested)
    have hchain := isChain_of_openSpans hgrid
      ((openSpans_eq_nil_iff hrange.le hgrid).mpr (by simpa [starts]))
    have hne : report.quality.candles ≠ [] := by
      intro hnil
      rw [hnil, length_nil, Nat.cast_zero, zero_mul] at hfull
      exact absurd hfull (sub_pos.mpr hrange).ne
    exact ⟨⟨rfl, rfl, rfl⟩, by simpa [CandlePage.candles], by
      simpa [hne] using (isChain_map _).mp hchain, by simpa [CandlePage.candles]⟩
  · simp only
    split
    next hconsistent =>
      obtain ⟨-, -, hshort, hgrid⟩ := of_decide_eq_true hconsistent
      exact exact_gapFreeRuns haligned (onGrid_spec haligned hgrid) (by simpa using hshort.ne)
    · have hnone : OnGrid interval.duration startsAt endsAt (starts []) := ⟨.nil, by simp [starts]⟩
      refine exact_gapFreeRuns haligned hnone ?_
      rw [eq_requested_iff haligned]
      simpa using (sub_pos.mpr hrange).ne

theorem exact_mergeConfirmedPages {first confirmation : CandlePage}
    (hfirst : first.Exact startsAt endsAt interval)
    (hconfirmation : confirmation.Exact startsAt endsAt interval) :
    (mergeConfirmedPages first confirmation).Exact startsAt endsAt interval := by
  obtain ⟨rfl, rfl, rfl⟩ := hconfirmation.request
  unfold mergeConfirmedPages
  split
  · exact hconfirmation
  · refine exact_gapFreeRuns haligned ⟨?_, fun t ht => ?_⟩ decide_eq_true_iff
    · exact pairwise_map.mpr (ascending_mergeConfirmedCandles _ _)
    · rw [mem_starts_merge (pairwise_map.mp hfirst.grid.ordered)
        (pairwise_map.mp hconfirmation.grid.ordered)] at ht
      exact ht.elim (hfirst.grid.within t) (hconfirmation.grid.within t)

omit haligned

theorem candles_splitPage (h : (splitPage report startsAt endsAt interval).consistent = true) :
    (splitPage report startsAt endsAt interval).candles = report.quality.candles := by
  unfold splitPage at h ⊢
  split
  · simp [CandlePage.candles]
  next hmatch =>
    rw [if_neg hmatch] at h
    simp only at h ⊢
    rw [if_pos h]
    exact (gapFreeRuns_spec _).1

/-! ## The gaps -/

/-- The grid bars that a page of these candles lacks. -/
def missing (candles : List Candle) (startsAt endsAt : Time) (interval : CandleInterval) :
    Set Time :=
  openPoints interval.duration startsAt endsAt (starts candles)

/-- Bars and gaps tile the page on its grid, a page without gaps is the complete one, and the first
unsettled bar is the earliest missing one. -/
structure ExactGaps (page : CandlePage) (startsAt endsAt : Time) (interval : CandleInterval)
    (gaps : List (Time × Time)) : Prop where
  found : page.gaps = some gaps
  tiled : ∀ t, page.candles.countP (fun candle => candle.startsAt ≤ t ∧
      t < candle.startsAt + interval.duration) +
    gaps.countP (fun gap => gap.1 ≤ t ∧ t < gap.2) = if startsAt ≤ t ∧ t < endsAt then 1 else 0
  bars : ∀ candle ∈ page.candles, interval.duration ∣ candle.startsAt - startsAt
  spans : ∀ gap ∈ gaps, gap.1 < gap.2 ∧ interval.duration ∣ gap.1 - startsAt ∧
    interval.duration ∣ gap.2 - startsAt
  complete : page.complete = true ↔ gaps = []
  unsettled : ∀ cutoff, interval.duration ∣ cutoff - startsAt →
    ∃ first, page.firstUnsettledMissing cutoff = some first ∧ match first with
      | none => missing page.candles startsAt endsAt interval ∩ Set.Ici cutoff = ∅
      | some t => IsLeast (missing page.candles startsAt endsAt interval ∩ Set.Ici cutoff) t

theorem CandlePage.Exact.exactGaps (hrange : startsAt < endsAt)
    (haligned : interval.duration ∣ endsAt - startsAt) (h : page.Exact startsAt endsAt interval) :
    ExactGaps page startsAt endsAt interval
      (openSpans interval.duration endsAt startsAt (starts page.candles)) where
  found := h.gaps
  tiled t := by
    rw [← countP_openSpans interval.duration_pos hrange.le h.grid t, starts, countP_map]
    rfl
  bars candle hcandle := (h.grid.within _ (mem_map_of_mem hcandle)).2.2
  spans gap hgap := by
    obtain ⟨-, hlt, -, hopen, hclose⟩ :=
      openSpans_within interval.duration_pos haligned h.grid hgap
    exact ⟨hlt, hopen, hclose⟩
  complete := by
    rw [h.complete, openSpans_eq_nil_iff hrange.le h.grid, starts, length_map]
  unsettled cutoff hcutoff := by
    refine ⟨_, congrArg (Option.map _) h.gaps, ?_⟩
    exact firstFrom_openSpans interval.duration_pos h.grid hcutoff

/-- The gaps of every split page and of its merge with a re-fetch are exact, and a consistent
merge lacks what both responses lack. -/
theorem page_gaps_exact (hrange : startsAt < endsAt)
    (haligned : interval.duration ∣ endsAt - startsAt) {first confirmation : CandleRangeReport}
    (hfirst : first.Truthful interval) (hconfirmation : confirmation.Truthful interval) :
    let page := splitPage first startsAt endsAt interval
    let refetch := splitPage confirmation startsAt endsAt interval
    let merged := mergeConfirmedPages page refetch
    (∃ gaps, ExactGaps page startsAt endsAt interval gaps) ∧
    (∃ gaps, ExactGaps merged startsAt endsAt interval gaps) ∧
    (page.consistent = true → refetch.consistent = true →
      missing merged.candles startsAt endsAt interval =
        missing first.quality.candles startsAt endsAt interval ∩
          missing confirmation.quality.candles startsAt endsAt interval) := by
  intro page refetch merged
  have hpage : page.Exact startsAt endsAt interval := exact_splitPage haligned hrange hfirst
  have hrefetch : refetch.Exact startsAt endsAt interval :=
    exact_splitPage haligned hrange hconfirmation
  have hmerged := exact_mergeConfirmedPages haligned hpage hrefetch
  refine ⟨⟨_, hpage.exactGaps hrange haligned⟩, ⟨_, hmerged.exactGaps hrange haligned⟩,
    fun hconsistent hconsistent' => ?_⟩
  have hcandles : merged.candles = mergeConfirmedCandles page.candles refetch.candles := by
    simp only [merged, mergeConfirmedPages, hconsistent, hconsistent']
    exact (gapFreeRuns_spec _).1
  have hstarts := mem_starts_merge (pairwise_map.mp hpage.grid.ordered)
    (pairwise_map.mp hrefetch.grid.ordered)
  rw [← candles_splitPage hconsistent, ← candles_splitPage hconsistent']
  ext t
  simp only [missing, openPoints, Set.mem_inter_iff, Set.mem_ofPred_eq, hcandles, hstarts, not_or]
  tauto

def thirdBar (index : Int) : Candle := ⟨index * minuteLength, 5, 6, 4, 5, 1⟩

def oneOfThree : CandleRangeReport := ⟨0, 3 * minuteLength, 3, ⟨[thirdBar 1], 1, 2, 2⟩, false⟩

def allThree : CandleRangeReport :=
  ⟨0, 3 * minuteLength, 3, ⟨[thirdBar 0, thirdBar 1, thirdBar 2], 3, 0, 0⟩, true⟩

/-- A response that holds one bar of a page of three, and the complete one to its re-fetch. -/
theorem page_gaps_exact_thirdBar :
    let split (report : CandleRangeReport) := splitPage report 0 (3 * minuteLength) .oneMinute
    (split allThree).complete = true ∧
      (∃ gaps, ExactGaps (split oneOfThree) 0 (3 * minuteLength) .oneMinute gaps) ∧
      ∃ gaps, ExactGaps (mergeConfirmedPages (split oneOfThree) (split allThree)) 0
        (3 * minuteLength) .oneMinute gaps := by
  have hfirst : oneOfThree.Truthful .oneMinute := (absurd · Bool.false_ne_true)
  have hrefetch : allThree.Truthful .oneMinute := fun _ => ⟨by decide, by decide +kernel⟩
  have hexact := page_gaps_exact (by decide : (0 : Time) < 3 * minuteLength) (by decide) hfirst hrefetch
  exact ⟨by decide +kernel, hexact.1, hexact.2.1⟩

end Thytrader.MarketData
