import Thytrader.MarketData.NoTrade

/-!
# The deploy window cache

`market_data/window_cache.py`: per window (product, interval, fixed start) the settled
candles scanned so far are frozen, and each call scans further blocks within its request
budget and refetches the unsettled tail. A call that runs out of requests raises
`WindowCacheWarmingError` and keeps its progress.

Mirroring notes: the lock serialises calls, so a call is one function from the cache to its outcome
and the next cache. A fetch is a function of the requested range; its report is its candles. One
turn of the `while` loop of `_extend_prefix` makes exactly one request, so the scan recurses on the
requests left. The source shares a window's state object with the dictionary; here the second
`_remember` stores the new value. Telemetry is left out.
-/

namespace Thytrader.MarketData

open Lib

/-- `RANGE_BLOCK_INTERVALS`: `HISTORICAL_REQUEST_MAX_CANDLES - 1`. -/
def rangeBlockIntervals : Nat := 349

def maxRangeRequestsPerCycle : Nat := 8

/-- `PUBLICATION_SETTLE`: 120 seconds. -/
def publicationSettle : Duration := 120 * 1000000

/-- The candles of a range report for `[starts_at, ends_at)`. -/
abbrev RangeFetcher := Time → Time → List Candle

structure WindowKey where
  productId : String
  interval : CandleInterval
  startsAt : Time
  deriving DecidableEq

/-- `_PendingBlock`: a sparse settled block awaiting its confirmation. -/
structure PendingBlock where
  startsAt : Time
  endsAt : Time
  candles : List Candle
  deriving DecidableEq

structure WindowState where
  scannedEnd : Time
  frozen : List Candle := []
  pending : Option PendingBlock := none
  deriving DecidableEq

/-- `WindowCacheWarmingError`. -/
structure WindowCacheWarming where
  productId : String
  interval : CandleInterval
  startsAt : Time
  scannedThrough : Time
  requestedEnd : Time
  rangeRequests : Nat
  deriving DecidableEq

/-- `DeployWindowCache`, oldest touched window first. -/
structure DeployWindowCache where
  maxTotalCandles : Nat
  windows : Dict WindowKey WindowState := Dict.empty

/-! ## Candles of a window -/

/-- `_after_frozen`: new evidence after the last frozen candle. -/
def afterFrozen (state : WindowState) (candles : List Candle) : List Candle :=
  candles.filter (fun candle => state.frozen.getLast?.all (fun last => last.startsAt < candle.startsAt))

def retainedCount (state : WindowState) : Nat :=
  state.frozen.length + state.pending.elim 0 (fun block => block.candles.length)

/-- `_truncate`: cap history and withhold a synthetic head. -/
def truncate (frozen : List Candle) (requestedEnd : Time) : List Candle :=
  (frozen.filter (fun candle => candle.startsAt < requestedEnd)).rdropWhile isNoTradeBar

/-- `_with_tail`: join the frozen history to fresh evidence. -/
def withTail (state : WindowState) (fresh : List Candle) (interval : CandleInterval) :
    List Candle :=
  let bridge := match state.frozen.getLast?, fresh with
    | some context, candle :: _ =>
      (fillNoTradeGaps [context] interval (some (min state.scannedEnd candle.startsAt))).drop 1
    | _, _ => []
  state.frozen ++ bridge ++ fresh

/-- `_fetch`: the candles of the report inside the requested range. -/
def fetchWithin (fetch : RangeFetcher) (start stop : Time) : List Candle :=
  (fetch start stop).filter (fun candle => start ≤ candle.startsAt ∧ candle.startsAt < stop)

/-! ## Scanning settled blocks -/

def freezeBlock (state : WindowState) (block : PendingBlock) (interval : CandleInterval) :
    WindowState :=
  let fresh := afterFrozen state block.candles
  let context := state.frozen.getLast?.toList
  { scannedEnd := block.endsAt
    frozen :=
      if fresh = [] then state.frozen
      else state.frozen ++ (fillNoTradeGaps (context ++ fresh) interval).drop context.length
    pending := none }

/-- One turn of `_extend_prefix`. A pending block past the settled end is forgotten: an earlier
as-of request cannot depend on it. -/
def scanBlock (fetch : RangeFetcher) (key : WindowKey) (settleEnd : Time) (state : WindowState) :
    WindowState :=
  match state.pending.filter (fun block => block.endsAt ≤ settleEnd) with
  | none =>
    let stop := min (state.scannedEnd + key.interval.duration * rangeBlockIntervals) settleEnd
    let start := max key.startsAt (state.scannedEnd - key.interval.duration)
    let fetched := fetchWithin fetch start stop
    if (fetched.length : Int) ≠ (stop - start) / key.interval.duration then
      { state with pending := some ⟨start, stop, fetched⟩ }
    else freezeBlock state ⟨start, stop, fetched⟩ key.interval
  | some block =>
    let confirmation := fetchWithin fetch block.startsAt block.endsAt
    freezeBlock state
      ⟨block.startsAt, block.endsAt, mergeConfirmedCandles block.candles confirmation⟩ key.interval

/-- `_extend_prefix` with `requests` left: the state it leaves and, unless they ran out, the
requests it did not use. -/
def extendPrefix (fetch : RangeFetcher) (key : WindowKey) (settleEnd : Time) :
    Nat → WindowState → Option Nat × WindowState
  | 0, state => if state.scannedEnd < settleEnd then (none, state) else (some 0, state)
  | requests + 1, state =>
    if state.scannedEnd < settleEnd then
      extendPrefix fetch key settleEnd requests (scanBlock fetch key settleEnd state)
    else (some (requests + 1), state)

/-! ## The cache -/

/-- The eviction loop of `_remember`, oldest window first; the last one stays. -/
def evictIdle (limit : Nat) : List (WindowKey × WindowState) → List (WindowKey × WindowState)
  | [] => []
  | [entry] => [entry]
  | entry :: next :: rest =>
    if limit < ((entry :: next :: rest).map (fun item => retainedCount item.2)).sum then
      evictIdle limit (next :: rest)
    else entry :: next :: rest

theorem evictIdle_sublist (limit : Nat) (entries : List (WindowKey × WindowState)) :
    (evictIdle limit entries).Sublist entries := by
  induction entries with
  | nil => exact .refl _
  | cons _ rest ih =>
    cases rest with
    | nil => exact .refl _
    | cons next =>
      unfold evictIdle
      split
      · exact ih.cons _
      · exact .refl _

namespace DeployWindowCache

/-- `_remember`: touch this window and evict whole idle windows. -/
def remember (cache : DeployWindowCache) (key : WindowKey) (state : WindowState) :
    DeployWindowCache :=
  let touched := (cache.windows.erase key).set key state
  { cache with
    windows :=
      ⟨evictIdle cache.maxTotalCandles touched.entries,
        touched.nodup.sublist ((evictIdle_sublist _ _).map Prod.fst)⟩ }

/-- A `closed_window` call, without its fetcher. -/
structure Call where
  productId : String
  interval : CandleInterval
  startsAt : Time
  lastClosedStart : Time
  now : Time
  deriving DecidableEq

namespace Call

def key (call : Call) : WindowKey := ⟨call.productId, call.interval, call.startsAt⟩

/-- The exclusive end of what a call may return. -/
def requestedEnd (call : Call) : Time :=
  min (call.lastClosedStart + call.interval.duration) (call.interval.alignClosedEnd call.now)

/-- The exclusive end of what a call may freeze: never the newest requested bar. -/
def settleEnd (call : Call) : Time :=
  min (call.requestedEnd - call.interval.duration)
    (call.interval.alignClosedEnd (call.now - publicationSettle))

end Call

def warming (call : Call) (state : WindowState) (requests : Nat) : WindowCacheWarming :=
  { productId := call.productId
    interval := call.interval
    startsAt := call.startsAt
    scannedThrough := state.scannedEnd
    requestedEnd := call.requestedEnd
    rangeRequests := requests }

/-- `closed_window` with a budget of `requests` range calls. -/
def closedWindow (cache : DeployWindowCache) (requests : Nat) (fetch : RangeFetcher) (call : Call) :
    Except WindowCacheWarming (List Candle) × DeployWindowCache :=
  if call.lastClosedStart < call.startsAt then (.ok [], cache)
  else if call.requestedEnd ≤ call.startsAt then (.ok [], cache)
  else
    let state := (cache.windows.get? call.key).getD { scannedEnd := call.startsAt }
    let touched := cache.remember call.key state
    match extendPrefix fetch call.key call.settleEnd requests state with
    | (none, state) => (.error (warming call state requests), touched.remember call.key state)
    | (some left, state) =>
      if call.requestedEnd ≤ state.scannedEnd then
        (.ok (truncate state.frozen call.requestedEnd), touched.remember call.key state)
      else if left = 0 then
        (.error (warming call state requests), touched.remember call.key state)
      else
        let fetchStart := max call.startsAt (state.scannedEnd - call.interval.duration)
        let tail := fetchWithin fetch fetchStart call.requestedEnd
        (.ok (withTail state (afterFrozen state tail) call.interval),
          touched.remember call.key state)

end DeployWindowCache

/-- What holds of every window of a cache and of the touched one holds of every window then. -/
theorem forall_remember {cache : DeployWindowCache} {p : WindowKey → WindowState → Prop}
    (h : ∀ key state, cache.windows.get? key = some state → p key state) (key : WindowKey)
    {state : WindowState} (hstate : p key state) :
    ∀ other kept, (cache.remember key state).windows.get? other = some kept → p other kept := by
  intro other kept hkept
  have hmem : (other, kept) ∈ ((cache.windows.erase key).set key state).entries :=
    (evictIdle_sublist _ _).subset (Dict.get?_eq_some_iff.mp hkept)
  rcases Dict.mem_set_iff.mp hmem with hsame | ⟨-, hmem⟩
  · cases hsame
    exact hstate
  · exact h other kept (Dict.get?_eq_some_iff.mpr (Dict.mem_erase_iff.mp hmem).2)

/-! ## Scanning -/

/-- A pending block ends after what is scanned. -/
def PendingAhead (state : WindowState) : Prop :=
  ∀ block, state.pending = some block → state.scannedEnd < block.endsAt

variable (fetch : RangeFetcher) (key : WindowKey) (settleEnd : Time) {state : WindowState}

/-- One turn freezes a block, or makes one pending that the next turn confirms. -/
theorem scanBlock_progress (h : PendingAhead state) (hbefore : state.scannedEnd < settleEnd) :
    PendingAhead (scanBlock fetch key settleEnd state) ∧
    (state.scannedEnd < (scanBlock fetch key settleEnd state).scannedEnd ∨
      (scanBlock fetch key settleEnd state).scannedEnd = state.scannedEnd ∧
        state.pending.filter (fun block => block.endsAt ≤ settleEnd) = none ∧
        (scanBlock fetch key settleEnd state).pending.filter
          (fun block => block.endsAt ≤ settleEnd) ≠ none) := by
  unfold scanBlock
  cases hpending : state.pending.filter (fun block => block.endsAt ≤ settleEnd) with
  | none =>
    have hblock : 0 < key.interval.duration * (rangeBlockIntervals : Int) :=
      mul_pos key.interval.duration_pos (by decide)
    have hafter : state.scannedEnd <
        min (state.scannedEnd + key.interval.duration * rangeBlockIntervals) settleEnd :=
      lt_min (lt_add_of_pos_right _ hblock) hbefore
    dsimp only
    split
    · refine ⟨?_, .inr ⟨rfl, rfl, by simp⟩⟩
      intro block heq
      cases heq
      exact hafter
    · exact ⟨by simp [PendingAhead, freezeBlock], .inl hafter⟩
  | some block =>
    have hkept := (Option.filter_eq_some_iff.mp hpending).1
    exact ⟨by simp [PendingAhead, freezeBlock], .inl (h block hkept)⟩

end Thytrader.MarketData
