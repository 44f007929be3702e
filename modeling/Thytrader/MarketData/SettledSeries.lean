import Thytrader.MarketData.NoTrade

/-!
# Settled series

The candles of a range, and the series made of them when only the bars before an instant
are settled: gaps before it are filled with flat bars, gaps after it stay. Here are its
order, its members and its end.
-/

namespace Thytrader.MarketData

open Lib List

variable {stop : Time} {interval : CandleInterval}

/-! ## Candles in a range -/

/-- The candles that start in `[start, stop)`. -/
def within (candles : List Candle) (start stop : Time) : List Candle :=
  candles.filter (fun candle => start ≤ candle.startsAt ∧ candle.startsAt < stop)

variable {start : Time}

section

variable {candles : List Candle}

@[simp] theorem mem_within {candle : Candle} :
    candle ∈ within candles start stop ↔
      candle ∈ candles ∧ start ≤ candle.startsAt ∧ candle.startsAt < stop := by
  simp [within]

theorem Ascending.range (h : Ascending candles) (start stop : Time) :
    Ascending (within candles start stop) := h.filter _

theorem Ascending.range_append (h : Ascending candles) {middle : Time}
    (hstart : start ≤ middle) (hstop : middle ≤ stop) :
    within candles start middle ++ within candles middle stop = within candles start stop := by
  refine Ascending.ext ?_ (h.range start stop) ?_
  · refine pairwise_append.mpr ⟨h.range start middle, h.range middle stop, ?_⟩
    intro earlier hearlier later hlater
    exact (mem_within.mp hearlier).2.2.trans_le (mem_within.mp hlater).2.1
  · intro candle
    rw [mem_append, mem_within, mem_within, mem_within]
    constructor
    · rintro (⟨hmem, hge, hlt⟩ | ⟨hmem, hge, hlt⟩)
      · exact ⟨hmem, hge, hlt.trans_le hstop⟩
      · exact ⟨hmem, hstart.trans hge, hlt⟩
    · rintro ⟨hmem, hge, hlt⟩
      rcases lt_or_ge candle.startsAt middle with hbefore | hafter
      · exact .inl ⟨hmem, hge, hbefore⟩
      · exact .inr ⟨hmem, hafter, hlt⟩

end

/-- Fresh candles join the frozen series through the bar it ends with. -/
theorem filledSeries_append (xs ys : List Candle) (interval : CandleInterval) :
    filledSeries xs interval ++ (fillNoTradeGaps (xs.getLast?.toList ++ ys) interval).drop
      xs.getLast?.toList.length = filledSeries (xs ++ ys) interval := by
  rw [fillNoTradeGaps_none]
  cases hlast : xs.getLast? with
  | none =>
    rw [getLast?_eq_none_iff.mp hlast]
    rfl
  | some =>
    rw [filledSeries, filledSeries, filledSeries, fillGaps_append hlast]
    rfl

/-! ## Settled up to an instant -/

/-- The series from `start` to `stop` settled before `settle`: gaps before it are filled up to the
last candle, or up to `settle` once a later one is known. -/
def settledSeries (candles : List Candle) (interval : CandleInterval) (start settle stop : Time) :
    List Candle :=
  let bridge := match (within candles start settle).getLast?, within candles settle stop with
    | some last, _ :: _ => fillers Candle.startsAt flatAfter interval.duration last settle
    | _, _ => []
  filledSeries (within candles start settle) interval ++ bridge ++ within candles settle stop

variable {candles : List Candle}

/-- A grid point before `stop` starts at the newest bar at the latest. -/
theorem le_newest_of_aligned {d t stop : Int} (hd : 0 < d) (ht : d ∣ t) (hstop : d ∣ stop)
    (hlt : t < stop) : t ≤ stop - d := by
  obtain ⟨i, rfl⟩ := ht
  obtain ⟨j, rfl⟩ := hstop
  have hij : i ≤ j - 1 := by
    have := lt_of_mul_lt_mul_left hlt hd.le
    omega
  have := mul_le_mul_of_nonneg_left hij hd.le
  linarith

section

variable {settle : Time} (hsorted : Ascending candles)
  (hgrid : ∀ candle ∈ candles, interval.duration ∣ candle.startsAt)
  (haligned : interval.duration ∣ stop) (hsettle : stop - interval.duration ≤ settle)
include hsorted hgrid haligned hsettle

theorem Ascending.newest_eq :
    within candles settle stop = [] ∨
      ∃ candle, within candles settle stop = [candle] ∧ candle.startsAt = settle := by
  have hnewest : ∀ candle ∈ within candles settle stop, candle.startsAt = settle := by
    intro candle hcandle
    obtain ⟨hmem, hge, hlt⟩ := mem_within.mp hcandle
    have hle := le_newest_of_aligned interval.duration_pos (hgrid candle hmem) haligned hlt
    exact le_antisymm (le_trans hle hsettle) hge
  cases htail : within candles settle stop with
  | nil => exact .inl rfl
  | cons candle rest =>
    rw [htail] at hnewest
    have hcandle := hnewest candle mem_cons_self
    have hrest : rest = [] := by
      refine eq_nil_iff_forall_not_mem.mpr (fun other hother => ?_)
      have hsorted' := hsorted.range settle stop
      rw [htail] at hsorted'
      have hlt := (pairwise_cons.mp hsorted').1 other hother
      rw [hcandle, hnewest other (mem_cons_of_mem _ hother)] at hlt
      exact absurd hlt (lt_irrefl _)
    exact .inr ⟨candle, by rw [hrest], hcandle⟩

theorem settledSeries_newest (hstart : start ≤ settle) (hstop : settle ≤ stop) :
    settledSeries candles interval start settle stop =
      filledSeries (within candles start stop) interval := by
  rw [← hsorted.range_append hstart hstop]
  unfold settledSeries
  rcases hsorted.newest_eq hgrid haligned hsettle with htail | ⟨candle, htail, hcandle⟩
  · rw [htail]
    cases (within candles start settle).getLast? <;> simp
  · rw [htail]
    cases hlast : (within candles start settle).getLast? with
    | none =>
      rw [getLast?_eq_none_iff.mp hlast]
      rfl
    | some =>
      rw [filledSeries, filledSeries, fillGaps_append hlast]
      simp [fillAfter, hcandle]

end

variable {settle : Time}

theorem mem_settledSeries (hsorted : Ascending candles) (hstop : settle ≤ stop)
    (hstart : start ≤ settle) {bar : Candle}
    (hbar : bar ∈ settledSeries candles interval start settle stop) :
    bar ∈ within candles start stop ∨
      ∃ before ∈ within candles start stop, ∃ after ∈ within candles start stop, ∃ t,
        before.startsAt < t ∧ t < after.startsAt ∧ t < settle ∧
        interval.duration ∣ t - before.startsAt ∧ bar = flatAfter t before := by
  have hearly : within candles start settle ⊆ within candles start stop := by
    intro candle hcandle
    obtain ⟨hmem, hge, hlt⟩ := mem_within.mp hcandle
    exact mem_within.mpr ⟨hmem, hge, hlt.trans_le hstop⟩
  have hlate : within candles settle stop ⊆ within candles start stop := by
    intro candle hcandle
    obtain ⟨hmem, hge, hlt⟩ := mem_within.mp hcandle
    exact mem_within.mpr ⟨hmem, hstart.trans hge, hlt⟩
  rw [settledSeries, mem_append, mem_append] at hbar
  rcases hbar with (hfilled | hbridge) | htail
  · rcases mem_fillGaps interval.duration_pos (hsorted.range start settle) hfilled with hmem | hflat
    · exact .inl (hearly hmem)
    · obtain ⟨before, hbefore, after, hafter, t, hlow, hhigh, hgrid, hbar, -⟩ := hflat
      exact .inr ⟨before, hearly hbefore, after, hearly hafter, t, hlow, hhigh,
        lt_trans hhigh (mem_within.mp hafter).2.2, hgrid, hbar⟩
  · cases hlast : (within candles start settle).getLast? with
    | none => exact absurd hbridge (by simp [hlast])
    | some last =>
      cases hnext : within candles settle stop with
      | nil => exact absurd hbridge (by simp [hnext])
      | cons after =>
        rw [hlast, hnext] at hbridge
        obtain ⟨t, hlow, hhigh, hgrid, hbar⟩ := (mem_fillers interval.duration_pos).mp hbridge
        have hafter : after ∈ within candles settle stop := by
          rw [hnext]
          exact mem_cons_self
        exact .inr ⟨last, hearly (mem_of_getLast? hlast), after, hlate hafter, t, hlow,
          lt_of_lt_of_le hhigh (mem_within.mp hafter).2.1, hhigh, hgrid, hbar⟩
  · exact .inl (hlate htail)

theorem subset_settledSeries (hsorted : Ascending candles) (hstart : start ≤ settle)
    (hstop : settle ≤ stop) :
    within candles start stop ⊆ settledSeries candles interval start settle stop := by
  rw [← hsorted.range_append hstart hstop]
  intro candle hcandle
  rw [settledSeries, mem_append, mem_append]
  rcases mem_append.mp hcandle with hearly | hlate
  · exact .inl (.inl (subset_fillGaps _ hearly))
  · exact .inr hlate

theorem ascending_settledSeries (hsorted : Ascending candles) (interval : CandleInterval)
    (start settle stop : Time) : Ascending (settledSeries candles interval start settle stop) := by
  have hfilled : Ascending (filledSeries (within candles start settle) interval) :=
    pairwise_fillGaps interval.duration_pos startsAt_flatAfter (hsorted.range start settle)
  have hbefore : ∀ bar ∈ filledSeries (within candles start settle) interval,
      bar.startsAt < settle := by
    intro bar hbar
    rcases mem_fillGaps interval.duration_pos (hsorted.range start settle) hbar with hmem | hflat
    · exact (mem_within.mp hmem).2.2
    · obtain ⟨-, -, after, hafter, t, -, hhigh, -, rfl, -⟩ := hflat
      exact lt_trans hhigh (mem_within.mp hafter).2.2
  have htail := hsorted.range settle stop
  unfold settledSeries
  dsimp only
  split
  next last after rest hlast hnext =>
    -- the bridge starts after the last candle of the prefix and ends before the tail
    have hbridge : ∀ bar ∈ fillers Candle.startsAt flatAfter interval.duration last settle,
        last.startsAt < bar.startsAt ∧ bar.startsAt < settle := by
      intro bar hbar
      obtain ⟨t, hlow, hhigh, -, rfl⟩ := (mem_fillers interval.duration_pos).mp hbar
      exact ⟨hlow, hhigh⟩
    have hend : ∀ bar ∈ filledSeries (within candles start settle) interval,
        bar.startsAt ≤ last.startsAt := fun bar hbar =>
      hfilled.le_getLast (by rw [filledSeries, getLast?_fillGaps, hlast]) hbar
    rw [Ascending, pairwise_append, pairwise_append]
    refine ⟨⟨hfilled, pairwise_fillers interval.duration_pos startsAt_flatAfter _ _, ?_⟩, htail, ?_⟩
    · intro earlier hearlier later hlater
      exact lt_of_le_of_lt (hend earlier hearlier) (hbridge later hlater).1
    · intro earlier hearlier later hlater
      refine lt_of_lt_of_le ?_ (mem_within.mp hlater).2.1
      rcases mem_append.mp hearlier with hearlier | hearlier
      · exact hbefore earlier hearlier
      · exact (hbridge earlier hearlier).2
  · rw [append_nil, Ascending, pairwise_append]
    refine ⟨hfilled, htail, fun earlier hearlier later hlater => ?_⟩
    exact lt_of_lt_of_le (hbefore earlier hearlier) (mem_within.mp hlater).2.1

theorem getLast?_settledSeries {last : Candle}
    (hlast : (settledSeries candles interval start settle stop).getLast? = some last) :
    last ∈ candles := by
  unfold settledSeries at hlast
  cases hnext : within candles settle stop with
  | nil =>
    rw [hnext] at hlast
    have hfilled : (filledSeries (within candles start settle) interval).getLast? = some last := by
      cases hscan : (within candles start settle).getLast? <;> simpa [hscan] using hlast
    rw [filledSeries, getLast?_fillGaps] at hfilled
    exact (mem_within.mp (mem_of_getLast? hfilled)).1
  | cons =>
    rw [getLast?_append_of_ne_nil _ (by simp [hnext])] at hlast
    exact (mem_within.mp (mem_of_getLast? hlast)).1

end Thytrader.MarketData
