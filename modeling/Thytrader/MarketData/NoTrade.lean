import Thytrader.Lib.Dict
import Thytrader.Lib.Gaps
import Thytrader.MarketData.Candles

/-!
# No-trade bars

`market_data/no_trade.py`: the provider returns no candle for an interval without trades,
and a confirmed missing interval becomes one flat bar at the previous close with volume
zero. A real candle has positive volume, so the volume tells the two apart.

Mirroring notes: the `while cursor < end` loop of `_append_flat_until` is the list of its
cursors. `sorted` over a dictionary is insertion sort of its keys.
-/

namespace Thytrader.MarketData

open Lib List Candle

variable {candles : List Candle} {candle : Candle}

def noTradeBar (startsAt : Time) (previousClose : Decimal) : Candle :=
  { startsAt, open_ := previousClose, high := previousClose, low := previousClose
    close := previousClose, volume := 0 }

def isNoTradeBar (candle : Candle) : Bool := candle.volume = 0

def flatAfter (startsAt : Time) (previous : Candle) : Candle :=
  noTradeBar startsAt previous.close

def appendFlatUntil (filled : List Candle) (stop : Time) (step : Duration) : List Candle :=
  match filled.getLast? with
  | none => filled
  | some previous => filled ++ fillers startsAt flatAfter step previous stop

def fillNoTradeGaps (candles : List Candle) (interval : CandleInterval)
    (through : Option Time := none) : List Candle :=
  match candles with
  | [] => []
  | first :: rest =>
    let filled := rest.foldl (fun filled candle =>
      appendFlatUntil filled candle.startsAt interval.duration ++ [candle]) [first]
    match through with
    | none => filled
    | some stop => appendFlatUntil filled stop interval.duration

/-- `{candle.starts_at: candle for candle in candles}`. -/
def candlesByStart (candles : List Candle) : Dict Time Candle :=
  candles.foldl (fun rows candle => rows.set candle.startsAt candle) Dict.empty

/-- `merge_confirmed_candles`: the confirmation's candle wins where both carry a bar. -/
def mergeConfirmedCandles (first confirmation : List Candle) : List Candle :=
  let byStart := (candlesByStart first).update (candlesByStart confirmation)
  ((byStart.entries.map Prod.fst).insertionSort (· ≤ ·)).filterMap byStart.get?

/-! ## Filled series -/

/-- Candles in strictly increasing order of their starts. -/
def Ascending (candles : List Candle) : Prop :=
  candles.Pairwise (fun earlier later => earlier.startsAt < later.startsAt)

@[simp] theorem startsAt_flatAfter (startsAt : Time) (previous : Candle) :
    (flatAfter startsAt previous).startsAt = startsAt := rfl

@[simp] theorem isNoTradeBar_flatAfter (startsAt : Time) (previous : Candle) :
    isNoTradeBar (flatAfter startsAt previous) = true := by
  simp [isNoTradeBar, flatAfter, noTradeBar]

def filledSeries (candles : List Candle) (interval : CandleInterval) : List Candle :=
  fillGaps startsAt flatAfter interval.duration candles

theorem foldl_appendFlatUntil (interval : CandleInterval) (filled : List Candle)
    (previous : Candle) (rest : List Candle) (hlast : filled.getLast? = some previous) :
    rest.foldl (fun filled candle =>
        appendFlatUntil filled candle.startsAt interval.duration ++ [candle]) filled =
      filled ++ fillAfter startsAt flatAfter interval.duration previous rest := by
  induction rest generalizing filled previous with
  | nil => simp [fillAfter]
  | cons candle _ ih =>
    rw [foldl_cons, ih _ candle (by simp)]
    simp [appendFlatUntil, hlast, fillAfter]

theorem fillNoTradeGaps_none (candles : List Candle) (interval : CandleInterval) :
    fillNoTradeGaps candles interval = filledSeries candles interval := by
  cases candles with
  | nil => rfl
  | cons first rest => exact foldl_appendFlatUntil interval [first] first rest rfl

theorem fillNoTradeGaps_some {last : Candle} (hlast : candles.getLast? = some last)
    (interval : CandleInterval) (stop : Time) :
    fillNoTradeGaps candles interval (some stop) = filledSeries candles interval ++
      fillers startsAt flatAfter interval.duration last stop := by
  cases candles with
  | nil => cases hlast
  | cons first rest =>
    have hfilled : (first :: fillAfter startsAt flatAfter interval.duration first
        rest).getLast? = some last := by
      rw [getLast?_fillAfter, hlast]
    simp only [fillNoTradeGaps]
    rw [foldl_appendFlatUntil interval [first] first rest rfl, singleton_append,
      appendFlatUntil, hfilled]
    rfl

/-! ## Merged responses -/

theorem startsAt_of_candlesByStart {startsAt : Time}
    (h : (candlesByStart candles).get? startsAt = some candle) :
    candle ∈ candles ∧ candle.startsAt = startsAt := by
  induction candles using List.reverseRecOn with
  | nil => exact absurd h (by simp [candlesByStart])
  | append_singleton _ _ ih =>
    rw [candlesByStart, foldl_append, foldl_cons, foldl_nil, Dict.get?_set] at h
    split at h
    next hstart =>
      cases h
      exact ⟨by simp, hstart.symm⟩
    · obtain ⟨hmem, hstart⟩ := ih h
      exact ⟨by simp [hmem], hstart⟩

theorem candlesByStart_of_ascending (h : Ascending candles) (hmem : candle ∈ candles) :
    (candlesByStart candles).get? candle.startsAt = some candle := by
  have hnodup : (candles.map startsAt).Nodup := by
    rw [List.Nodup, pairwise_map]
    exact h.imp ne_of_lt
  refine (Dict.get?_foldl_set_eq_some_iff startsAt ?_).mpr ⟨hmem, rfl⟩
  intro a ha b hb hsame hsame'
  exact inj_on_of_nodup_map hnodup ha hb (hsame.trans hsame'.symm)

variable {first confirmation : List Candle}

theorem startsAt_of_merged {startsAt : Time}
    (h : ((candlesByStart confirmation).get? startsAt).or ((candlesByStart first).get? startsAt) =
      some candle) : candle.startsAt = startsAt := by
  rcases Option.or_eq_some_iff.mp h with hget | ⟨-, hget⟩
  · exact (startsAt_of_candlesByStart hget).2
  · exact (startsAt_of_candlesByStart hget).2

/-- The merged dictionary: the confirmation's candle, else the first response's. -/
theorem mem_mergeConfirmedCandles :
    candle ∈ mergeConfirmedCandles first confirmation ↔
      ((candlesByStart confirmation).get? candle.startsAt).or
        ((candlesByStart first).get? candle.startsAt) = some candle := by
  simp only [mergeConfirmedCandles, mem_filterMap, mem_insertionSort, mem_map]
  rw [← Dict.get?_update]
  constructor
  · rintro ⟨_, ⟨entry, hentry, rfl⟩, hget⟩
    rw [startsAt_of_merged ((Dict.get?_update _ _ _).symm.trans hget)]
    exact hget
  · intro hget
    exact ⟨candle.startsAt, ⟨_, Dict.get?_eq_some_iff.mp hget, rfl⟩, hget⟩

theorem ascending_mergeConfirmedCandles (first confirmation : List Candle) :
    Ascending (mergeConfirmedCandles first confirmation) := by
  have hkeys : (((candlesByStart first).update
      (candlesByStart confirmation)).entries.map Prod.fst).Nodup := Dict.nodup _
  have hsorted : ((((candlesByStart first).update (candlesByStart confirmation)).entries.map
      Prod.fst).insertionSort (· ≤ ·)).Pairwise (· < ·) := by
    have hle := pairwise_insertionSort (· ≤ ·) (((candlesByStart first).update
      (candlesByStart confirmation)).entries.map Prod.fst)
    have hne := (perm_insertionSort (· ≤ ·) _).nodup_iff.mpr hkeys
    exact (hle.and hne).imp (fun h => lt_of_le_of_ne h.1 h.2)
  unfold Ascending mergeConfirmedCandles
  rw [pairwise_filterMap]
  refine hsorted.imp (fun {start start'} hlt candle hcandle candle' hcandle' => ?_)
  rw [Dict.get?_update] at hcandle hcandle'
  rw [startsAt_of_merged hcandle, startsAt_of_merged hcandle']
  exact hlt

theorem Ascending.ext {xs ys : List Candle} (hx : Ascending xs) (hy : Ascending ys)
    (h : ∀ candle, candle ∈ xs ↔ candle ∈ ys) : xs = ys := by
  have hnodup : ∀ {zs : List Candle}, Ascending zs → zs.Nodup := fun hz =>
    hz.imp (fun hlt heq => absurd (congrArg startsAt heq) (ne_of_lt hlt))
  have hperm := (perm_ext_iff_of_nodup (hnodup hx) (hnodup hy)).mpr h
  exact hperm.eq_of_pairwise (fun a b _ _ hab hba => absurd hab (lt_asymm hba)) hx hy

theorem Ascending.le_getLast (h : Ascending candles) {last : Candle}
    (hlast : candles.getLast? = some last) (hmem : candle ∈ candles) :
    candle.startsAt ≤ last.startsAt := by
  obtain ⟨front, rfl⟩ := getLast?_eq_some_iff.mp hlast
  rcases mem_append.mp hmem with hfront | hsame
  · exact ((pairwise_append.mp h).2.2 candle hfront last (by simp)).le
  · rw [mem_singleton.mp hsame]

/-- A response confirmed by itself is unchanged. -/
theorem mergeConfirmedCandles_self (h : Ascending candles) :
    mergeConfirmedCandles candles candles = candles := by
  refine (ascending_mergeConfirmedCandles candles candles).ext h (fun candle => ?_)
  rw [mem_mergeConfirmedCandles, Option.or_self]
  constructor
  · exact fun hget => (startsAt_of_candlesByStart hget).1
  · exact candlesByStart_of_ascending h

end Thytrader.MarketData
