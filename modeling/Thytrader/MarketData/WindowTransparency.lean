import Thytrader.MarketData.SettledSeries
import Thytrader.MarketData.WindowCache

/-!
# The window cache is transparent

Over a fixed set of provider candles the frozen prefix of a window is always the filled
series of the candles scanned so far (`Scanned`), whatever calls, evictions and exhausted
budgets came before. A call that returns therefore returns one series that depends on its
arguments only, `settledSeries`, which is what a fresh cache returns once its budget
suffices (`closedWindow_transparent`).

A scan never goes past the settled end of a call, so it survives calls for earlier caps
(`Scanned.result`).
-/

namespace Thytrader.MarketData

open Lib DeployWindowCache List

/-! ## The frozen prefix -/

@[simp] theorem fetchWithin_within (candles : List Candle) (start stop : Time) :
    fetchWithin (within candles) start stop = within candles start stop := by
  simp [fetchWithin, within]

/-- The frozen candles are the filled series of the candles scanned so far, and a pending block
carries the candles of its range. -/
structure Scanned (candles : List Candle) (key : WindowKey) (settled : Time)
    (state : WindowState) : Prop where
  begins : key.startsAt ≤ state.scannedEnd
  settles : state.scannedEnd = key.startsAt ∨ state.scannedEnd ≤ settled
  frozen : state.frozen = filledSeries (within candles key.startsAt state.scannedEnd) key.interval
  pending : ∀ block, state.pending = some block →
    block.startsAt = max key.startsAt (state.scannedEnd - key.interval.duration) ∧
    state.scannedEnd < block.endsAt ∧ block.endsAt ≤ settled ∧
    block.candles = within candles block.startsAt block.endsAt

section

variable {candles : List Candle} {key : WindowKey} {settled : Time} {state : WindowState}

theorem scanned_fresh (candles : List Candle) (key : WindowKey) (settled : Time) :
    Scanned candles key settled { scannedEnd := key.startsAt } where
  begins := le_rfl
  settles := .inl rfl
  frozen := by
    have hempty : within candles key.startsAt key.startsAt = [] := by
      rw [within, filter_eq_nil_iff]
      intro candle _ hin
      have hin := of_decide_eq_true hin
      exact absurd hin.2 (not_lt.mpr hin.1)
    rw [hempty]
    rfl
  pending := by simp

variable {stop settleEnd : Time}

section

variable (h : Scanned candles key settled state)
include h

theorem Scanned.mono {later : Time} (hle : settled ≤ later) : Scanned candles key later state where
  begins := h.begins
  settles := h.settles.imp id (fun h => h.trans hle)
  frozen := h.frozen
  pending block hblock := by
    obtain ⟨hstart, hlt, hsettled, hcandles⟩ := h.pending block hblock
    exact ⟨hstart, hlt, hsettled.trans hle, hcandles⟩

theorem Scanned.afterFrozen_eq (hsorted : Ascending candles) {start : Time}
    (hstart : key.startsAt ≤ start) (hscanned : start ≤ state.scannedEnd) :
    afterFrozen state (within candles start stop) = within candles state.scannedEnd stop := by
  have hlast : state.frozen.getLast? =
      (within candles key.startsAt state.scannedEnd).getLast? := by
    rw [h.frozen]
    exact getLast?_fillGaps _
  refine Ascending.ext ((hsorted.range start stop).filter _)
    (hsorted.range state.scannedEnd stop) (fun candle => ?_)
  simp only [afterFrozen, mem_filter, mem_within, hlast]
  cases hscan : (within candles key.startsAt state.scannedEnd).getLast? with
  | none =>
    have hempty := getLast?_eq_none_iff.mp hscan
    simp only [Option.all_none, and_true]
    constructor
    · rintro ⟨hmem, hge, hlt⟩
      refine ⟨hmem, ?_, hlt⟩
      by_contra hbefore
      have : candle ∈ within candles key.startsAt state.scannedEnd :=
        mem_within.mpr ⟨hmem, hstart.trans hge, not_le.mp hbefore⟩
      rw [hempty] at this
      cases this
    · rintro ⟨hmem, hge, hlt⟩
      exact ⟨hmem, hscanned.trans hge, hlt⟩
  | some =>
    have hlastmem := mem_within.mp (mem_of_getLast? hscan)
    simp only [Option.all_some, decide_eq_true_eq]
    constructor
    · rintro ⟨⟨hmem, hge, hlt⟩, hafter⟩
      refine ⟨hmem, ?_, hlt⟩
      -- a candle before the scan's end is at most the last one scanned
      by_contra hbefore
      have hin : candle ∈ within candles key.startsAt state.scannedEnd :=
        mem_within.mpr ⟨hmem, hstart.trans hge, not_le.mp hbefore⟩
      exact absurd hafter (not_lt.mpr (Ascending.le_getLast (hsorted.range _ _) hscan hin))
    · rintro ⟨hmem, hge, hlt⟩
      exact ⟨⟨hmem, hscanned.trans hge, hlt⟩, hlastmem.2.2.trans_le hge⟩

theorem Scanned.getLast?_frozen :
    state.frozen.getLast? = (within candles key.startsAt state.scannedEnd).getLast? := by
  rw [h.frozen]
  exact getLast?_fillGaps _

theorem Scanned.freeze (hsorted : Ascending candles) (hafter : state.scannedEnd < stop)
    (hsettled : stop ≤ settled) :
    Scanned candles key settled (freezeBlock state
      ⟨max key.startsAt (state.scannedEnd - key.interval.duration), stop,
        within candles (max key.startsAt (state.scannedEnd - key.interval.duration)) stop⟩
      key.interval) where
  begins := h.begins.trans hafter.le
  settles := .inr hsettled
  pending := by simp [freezeBlock]
  frozen := by
    have hoverlap : max key.startsAt (state.scannedEnd - key.interval.duration) ≤
        state.scannedEnd :=
      max_le h.begins (sub_le_self _ key.interval.duration_pos.le)
    simp only [freezeBlock]
    rw [h.afterFrozen_eq hsorted (le_max_left _ _) hoverlap]
    rw [← hsorted.range_append h.begins hafter.le]
    split
    next hempty => rw [hempty, append_nil, h.frozen]
    · rw [h.getLast?_frozen, h.frozen, filledSeries_append]

/-- One request of the scan: the prefix grows up to the settled end, or a sparse block is
kept for its confirmation. -/
theorem Scanned.scan (hsorted : Ascending candles) (hsettled : settleEnd ≤ settled)
    (hbefore : state.scannedEnd < settleEnd) :
    Scanned candles key settled (scanBlock (within candles) key settleEnd state) ∧
    (scanBlock (within candles) key settleEnd state).scannedEnd ≤ settleEnd := by
  unfold scanBlock
  cases hpending : state.pending.filter (fun block => block.endsAt ≤ settleEnd) with
  | none =>
    simp only [fetchWithin_within]
    set stop := min (state.scannedEnd + key.interval.duration * rangeBlockIntervals) settleEnd
    have hblock : 0 < key.interval.duration * (rangeBlockIntervals : Int) :=
      mul_pos key.interval.duration_pos (by decide)
    have hafter : state.scannedEnd < stop := lt_min (lt_add_of_pos_right _ hblock) hbefore
    have hstopEnd : stop ≤ settleEnd := min_le_right _ _
    split
    · refine ⟨⟨h.begins, h.settles, h.frozen, ?_⟩, hbefore.le⟩
      intro block heq
      cases heq
      exact ⟨rfl, hafter, hstopEnd.trans hsettled, rfl⟩
    · exact ⟨h.freeze hsorted hafter (hstopEnd.trans hsettled), hstopEnd⟩
  | some block =>
    obtain ⟨hkept, hend⟩ := Option.filter_eq_some_iff.mp hpending
    obtain ⟨hstart, hafter, hblockSettled, hcandles⟩ := h.pending block hkept
    have hend : block.endsAt ≤ settleEnd := by simpa using hend
    simp only [fetchWithin_within]
    rw [hcandles, mergeConfirmedCandles_self (hsorted.range _ _), hstart]
    exact ⟨h.freeze hsorted hafter hblockSettled, hend⟩

/-- What a scan leaves: it stays sound, and reaches the settled end unless the requests ran
out. -/
theorem Scanned.extend (hsorted : Ascending candles) (hsettled : settleEnd ≤ settled)
    (requests : Nat) :
    Scanned candles key settled (extendPrefix (within candles) key settleEnd requests state).2 ∧
    ∀ left, (extendPrefix (within candles) key settleEnd requests state).1 = some left →
      settleEnd ≤ (extendPrefix (within candles) key settleEnd requests state).2.scannedEnd := by
  induction requests generalizing state with
  | zero =>
    unfold extendPrefix
    split
    · exact ⟨h, by simp⟩
    next hdone => exact ⟨h, fun _ _ => not_lt.mp hdone⟩
  | succ _ ih =>
    unfold extendPrefix
    split
    next hbefore => exact ih (h.scan hsorted hsettled hbefore).1
    next hdone => exact ⟨h, fun _ _ => not_lt.mp hdone⟩

end

/-- The requests a scan still needs at most: two for each instant, and the first of two for a block
not pending yet. -/
def scanWork (settleEnd : Time) (state : WindowState) : Nat :=
  2 * (settleEnd - state.scannedEnd).toNat +
    if state.pending.filter (fun block => block.endsAt ≤ settleEnd) = none then 1 else 0

theorem toNat_sub_lt {a b c : Int} (hab : a < b) (hbc : b ≤ c) :
    (c - b).toNat + 1 ≤ (c - a).toNat := by
  omega

variable (h : Scanned candles key settled state)
include h

theorem Scanned.scanWork_lt (hsorted : Ascending candles) (hsettled : settleEnd ≤ settled)
    (hbefore : state.scannedEnd < settleEnd) :
    scanWork settleEnd (scanBlock (within candles) key settleEnd state) <
      scanWork settleEnd state := by
  have hend := (h.scan hsorted hsettled hbefore).2
  have hahead : PendingAhead state := fun block hblock => (h.pending block hblock).2.1
  obtain ⟨-, hadvances | ⟨hsame, hnone, hkept⟩⟩ :=
    scanBlock_progress (within candles) key settleEnd hahead hbefore
  · have hless := toNat_sub_lt hadvances hend
    unfold scanWork
    split <;> split <;> omega
  · unfold scanWork
    rw [hsame, hnone, if_neg hkept, if_pos rfl]
    omega

theorem Scanned.extend_enough (hsorted : Ascending candles) (hsettled : settleEnd ≤ settled)
    {requests : Nat} (hrequests : scanWork settleEnd state < requests) :
    ∃ left, (extendPrefix (within candles) key settleEnd requests state).1 = some (left + 1) := by
  induction requests generalizing state with
  | zero => exact absurd hrequests (Nat.not_lt_zero _)
  | succ requests ih =>
    unfold extendPrefix
    split
    next hbefore =>
      have hless := h.scanWork_lt hsorted hsettled hbefore
      exact ih (h.scan hsorted hsettled hbefore).1 (by omega)
    · exact ⟨requests, rfl⟩

/-- The frozen prefix joined to the candles after the scan. -/
theorem Scanned.withTail_eq (stop : Time) :
    withTail state (within candles state.scannedEnd stop) key.interval =
      settledSeries candles key.interval key.startsAt state.scannedEnd stop := by
  unfold withTail settledSeries
  rw [h.getLast?_frozen, h.frozen]
  cases hlast : (within candles key.startsAt state.scannedEnd).getLast? with
  | none => rfl
  | some =>
    cases htail : within candles state.scannedEnd stop with
    | nil => rfl
    | cons candle =>
      have hafter : state.scannedEnd ≤ candle.startsAt := by
        have hmem : candle ∈ within candles state.scannedEnd stop := by
          rw [htail]
          exact mem_cons_self
        exact (mem_within.mp hmem).2.1
      dsimp only
      rw [min_eq_left hafter, fillNoTradeGaps_some rfl]
      rfl

/-- A longer frozen prefix cut back to an earlier end. -/
theorem Scanned.truncate_eq (hsorted : Ascending candles)
    (htraded : ∀ candle ∈ candles, 0 < candle.volume) (hstart : key.startsAt ≤ stop)
    (hstop : stop ≤ state.scannedEnd) :
    truncate state.frozen stop = filledSeries (within candles key.startsAt stop) key.interval := by
  rw [h.frozen, ← hsorted.range_append hstart hstop, filledSeries]
  refine rdropWhile_filter_fillGaps key.interval.duration_pos startsAt_flatAfter
    isNoTradeBar_flatAfter ?_ ?_ ?_ ?_
  · intro candle hcandle
    simpa [isNoTradeBar] using (htraded candle (mem_within.mp hcandle).1).ne'
  · rw [hsorted.range_append hstart hstop]
    exact hsorted.range _ _
  · exact fun candle hcandle => (mem_within.mp hcandle).2.2
  · exact fun candle hcandle => (mem_within.mp hcandle).2.1

end

/-! ## One call -/

/-- A fixed set of provider candles: in order, on the grid, with traded volume. -/
structure Provider where
  candles : String → CandleInterval → List Candle
  ascending : ∀ productId interval, Ascending (candles productId interval)
  onGrid : ∀ productId interval, ∀ candle ∈ candles productId interval,
    interval.duration ∣ candle.startsAt
  traded : ∀ productId interval, ∀ candle ∈ candles productId interval, 0 < candle.volume

namespace Provider

def fetch (provider : Provider) (call : Call) : RangeFetcher :=
  within (provider.candles call.productId call.interval)

/-- What a call returns when it returns. -/
def series (provider : Provider) (call : Call) : List Candle :=
  if call.lastClosedStart < call.startsAt ∨ call.requestedEnd ≤ call.startsAt then []
  else settledSeries (provider.candles call.productId call.interval) call.interval call.startsAt
    (max call.startsAt call.settleEnd) call.requestedEnd

end Provider

/-- Every window of the cache is soundly scanned, as far as `now` settles. -/
def Sound (provider : Provider) (now : Time) (cache : DeployWindowCache) : Prop :=
  ∀ key state, cache.windows.get? key = some state →
    Scanned (provider.candles key.productId key.interval) key
      (key.interval.alignClosedEnd (now - publicationSettle)) state

section

variable {provider : Provider} {now : Time} {cache : DeployWindowCache} {call : Call}

theorem dvd_requestedEnd (hcap : call.interval.duration ∣ call.lastClosedStart) :
    call.interval.duration ∣ call.requestedEnd := by
  rcases min_choice (call.lastClosedStart + call.interval.duration)
    (call.interval.alignClosedEnd call.now) with hmin | hmin
  · rw [Call.requestedEnd, hmin]
    exact dvd_add hcap dvd_rfl
  · rw [Call.requestedEnd, hmin]
    exact call.interval.dvd_alignClosedEnd call.now

theorem Sound.mono {later : Time} (h : Sound provider now cache) (hle : now ≤ later) :
    Sound provider later cache := by
  intro key state hstate
  exact (h key state hstate).mono (key.interval.alignClosedEnd_mono (sub_le_sub_right hle _))

theorem Sound.state (h : Sound provider now cache) (hnow : now ≤ call.now) :
    Scanned (provider.candles call.productId call.interval) call.key
      (call.interval.alignClosedEnd (call.now - publicationSettle))
      ((cache.windows.get? call.key).getD { scannedEnd := call.startsAt }) := by
  cases hstate : cache.windows.get? call.key with
  | none => exact scanned_fresh _ call.key _
  | some state => exact h.mono hnow call.key state hstate

/-- A finished scan gives the series of the call, cut back or joined to the tail. -/
theorem Scanned.result (hcap : call.interval.duration ∣ call.lastClosedStart) {state : WindowState}
    (h : Scanned (provider.candles call.productId call.interval) call.key
      (call.interval.alignClosedEnd (call.now - publicationSettle)) state)
    (hopen : ¬ (call.lastClosedStart < call.startsAt ∨ call.requestedEnd ≤ call.startsAt))
    (hscanned : call.settleEnd ≤ state.scannedEnd) :
    (if call.requestedEnd ≤ state.scannedEnd then truncate state.frozen call.requestedEnd
      else withTail state (afterFrozen state (within (provider.candles call.productId call.interval)
        (max call.startsAt (state.scannedEnd - call.interval.duration)) call.requestedEnd))
        call.interval) = provider.series call := by
  have hsorted := provider.ascending call.productId call.interval
  have hstart : call.startsAt < call.requestedEnd := not_le.mp (fun hle => hopen (.inr hle))
  have hshorter : call.requestedEnd - call.interval.duration ≤ call.requestedEnd :=
    sub_le_self _ call.interval.duration_pos.le
  -- settled up to the newest bar, it does not matter where exactly the scan stands
  have hnewest : ∀ {settle : Time}, call.requestedEnd - call.interval.duration ≤ settle →
      call.startsAt ≤ settle → settle ≤ call.requestedEnd →
      settledSeries (provider.candles call.productId call.interval) call.interval call.startsAt
        settle call.requestedEnd = filledSeries (within (provider.candles call.productId
          call.interval) call.startsAt call.requestedEnd) call.interval := fun hsettle hfits hends =>
    settledSeries_newest hsorted (provider.onGrid call.productId call.interval)
      (dvd_requestedEnd hcap) hsettle hfits hends
  have hends : max call.startsAt call.settleEnd ≤ call.requestedEnd :=
    max_le hstart.le ((min_le_left _ _).trans hshorter)
  have hbegins : call.startsAt ≤ state.scannedEnd := h.begins
  rw [Provider.series, if_neg hopen]
  split
  next hcovered =>
    have hsettled : call.requestedEnd - call.interval.duration ≤
        call.interval.alignClosedEnd (call.now - publicationSettle) := by
      rcases h.settles with hsame | hle
      · exact absurd (hcovered.trans hsame.le) (not_le.mpr hstart)
      · exact hshorter.trans (hcovered.trans hle)
    have hsettle : call.requestedEnd - call.interval.duration ≤ max call.startsAt call.settleEnd :=
      le_max_of_le_right (le_min le_rfl hsettled)
    rw [hnewest hsettle (le_max_left _ _) hends]
    exact h.truncate_eq hsorted (provider.traded call.productId call.interval) hstart.le hcovered
  next hcovered =>
    have hoverlap : max call.startsAt (state.scannedEnd - call.interval.duration) ≤
        state.scannedEnd :=
      max_le h.begins (sub_le_self _ call.interval.duration_pos.le)
    have hafter : call.key.startsAt ≤
        max call.startsAt (state.scannedEnd - call.interval.duration) := le_max_left _ _
    rw [h.afterFrozen_eq hsorted hafter hoverlap]
    refine (h.withTail_eq call.requestedEnd).trans ?_
    rcases lt_or_ge (max call.startsAt call.settleEnd) state.scannedEnd with hpast | hstays
    · -- an earlier call scanned past this one's settled end, into its newest bar
      have hsettled : state.scannedEnd ≤
          call.interval.alignClosedEnd (call.now - publicationSettle) := by
        rcases h.settles with hsame | hle
        · exact absurd hsame (ne_of_gt (lt_of_le_of_lt (le_max_left _ _) hpast))
        · exact hle
      have hend : call.settleEnd = call.requestedEnd - call.interval.duration := by
        rcases min_choice (call.requestedEnd - call.interval.duration)
          (call.interval.alignClosedEnd (call.now - publicationSettle)) with hmin | hmin
        · exact hmin
        · have hlt := lt_of_le_of_lt (le_max_right call.startsAt call.settleEnd) hpast
          rw [Call.settleEnd, hmin] at hlt
          exact absurd hsettled (not_le.mpr hlt)
      rw [hnewest (hend ▸ le_max_right _ _) (le_max_left _ _) hends]
      exact hnewest (hend ▸ hscanned) hbegins (not_le.mp hcovered).le
    · rw [le_antisymm hstays (max_le hbegins hscanned)]
      rfl

theorem Sound.after_call (h : Sound provider now cache) (hnow : now ≤ call.now) (requests : Nat) :
    Sound provider call.now (closedWindow cache requests (provider.fetch call) call).2 ∧
    (call.interval.duration ∣ call.lastClosedStart →
      ∀ series, (closedWindow cache requests (provider.fetch call) call).1 = .ok series →
        series = provider.series call) := by
  have hlater := h.mono hnow
  have hstate := h.state hnow
  have hsettled : call.settleEnd ≤ call.interval.alignClosedEnd (call.now - publicationSettle) :=
    min_le_right _ _
  obtain ⟨hscanned, hreached⟩ := hstate.extend
    (provider.ascending call.productId call.interval) hsettled requests
  unfold closedWindow
  by_cases hearly : call.lastClosedStart < call.startsAt
  · rw [if_pos hearly]
    refine ⟨hlater, fun _ series hseries => ?_⟩
    rw [Provider.series, if_pos (.inl hearly)]
    exact (Except.ok.inj hseries).symm
  rw [if_neg hearly]
  by_cases hempty : call.requestedEnd ≤ call.startsAt
  · rw [if_pos hempty]
    refine ⟨hlater, fun _ series hseries => ?_⟩
    rw [Provider.series, if_pos (.inr hempty)]
    exact (Except.ok.inj hseries).symm
  rw [if_neg hempty]
  have hopen : ¬ (call.lastClosedStart < call.startsAt ∨ call.requestedEnd ≤ call.startsAt) :=
    not_or.mpr ⟨hearly, hempty⟩
  have hsound : Sound provider call.now ((cache.remember call.key _).remember call.key _) :=
    forall_remember (forall_remember hlater _ hstate) _ hscanned
  simp only [Provider.fetch, fetchWithin_within]
  rcases hextend : extendPrefix (within (provider.candles call.productId call.interval)) call.key
    call.settleEnd requests ((cache.windows.get? call.key).getD { scannedEnd := call.startsAt })
    with ⟨left, state⟩
  rw [hextend] at hscanned hreached hsound
  cases left with
  | none => exact ⟨hsound, by simp⟩
  | some left =>
    have hresult := fun hcap => Scanned.result hcap hscanned hopen (hreached left rfl)
    dsimp only
    split
    next hcovered =>
      refine ⟨hsound, fun hcap series hseries => ?_⟩
      rw [← hresult hcap, if_pos hcovered]
      exact (Except.ok.inj hseries).symm
    next hcovered =>
      split
      · exact ⟨hsound, by simp⟩
      · refine ⟨hsound, fun hcap series hseries => ?_⟩
        rw [← hresult hcap, if_neg hcovered]
        exact (Except.ok.inj hseries).symm

theorem Sound.enough (h : Sound provider now cache) (hnow : now ≤ call.now)
    (hcap : call.interval.duration ∣ call.lastClosedStart) {requests : Nat}
    (hrequests : scanWork call.settleEnd
      ((cache.windows.get? call.key).getD { scannedEnd := call.startsAt }) < requests) :
    (closedWindow cache requests (provider.fetch call) call).1 = .ok (provider.series call) := by
  -- the call does not run out of requests, so it returns; what it returns is known
  have hok : ∃ series, (closedWindow cache requests (provider.fetch call) call).1 = .ok series := by
    have hsettled : call.settleEnd ≤
        call.interval.alignClosedEnd (call.now - publicationSettle) := min_le_right _ _
    obtain ⟨left, hleft⟩ := (h.state hnow).extend_enough
      (provider.ascending call.productId call.interval) hsettled hrequests
    unfold closedWindow
    split
    · exact ⟨_, rfl⟩
    · split
      · exact ⟨_, rfl⟩
      · simp only [Provider.fetch]
        rcases hextend : extendPrefix (within (provider.candles call.productId call.interval))
          call.key call.settleEnd requests
          ((cache.windows.get? call.key).getD { scannedEnd := call.startsAt }) with ⟨more, state⟩
        rw [hextend] at hleft
        obtain rfl : more = some (left + 1) := hleft
        dsimp only
        split
        · exact ⟨_, rfl⟩
        · exact ⟨_, by rw [if_neg (Nat.succ_ne_zero left)]⟩
  obtain ⟨series, hseries⟩ := hok
  rw [hseries, (h.after_call hnow requests).2 hcap series hseries]

end

/-! ## Runs of calls -/

/-- The cache after a run of calls, each with a budget of `requests`. -/
def cacheAfter (provider : Provider) (requests : Nat) (cache : DeployWindowCache)
    (calls : List Call) : DeployWindowCache :=
  calls.foldl (fun cache call => (closedWindow cache requests (provider.fetch call) call).2) cache

theorem sound_empty (provider : Provider) (now : Time) (limit : Nat) :
    Sound provider now { maxTotalCandles := limit } := by
  intro key state hstate
  cases hstate

/-- Every run whose clock does not go back leaves a sound cache. -/
theorem sound_cacheAfter (provider : Provider) (limit requests : Nat) {calls : List Call}
    (hclock : calls.Pairwise (fun earlier later => earlier.now ≤ later.now)) {now : Time}
    (hnow : ∀ call ∈ calls, call.now ≤ now) :
    Sound provider now (cacheAfter provider requests { maxTotalCandles := limit } calls) := by
  induction calls using List.reverseRecOn generalizing now with
  | nil => exact sound_empty provider now limit
  | append_singleton _ call ih =>
    obtain ⟨hearlier, -, hlast⟩ := pairwise_append.mp hclock
    have hbefore := ih hearlier (fun earlier hmem => hlast earlier hmem call (by simp))
    rw [cacheAfter, foldl_append]
    exact (hbefore.after_call le_rfl requests).1.mono (hnow call (by simp))

/-! ## What a call returns -/

/-- Two providers with the same candles up to the as-of cap of a call. -/
def AgreeUpTo (provider other : Provider) (call : Call) : Prop :=
  ∀ candle : Candle, candle.startsAt ≤ call.lastClosedStart →
    (candle ∈ provider.candles call.productId call.interval ↔
      candle ∈ other.candles call.productId call.interval)

/-- What a consumer may rely on in the series of a call. -/
structure FaithfulSeries (provider : Provider) (call : Call) (series : List Candle) : Prop where
  increasing : Ascending series
  onGrid : ∀ bar ∈ series, call.interval.duration ∣ bar.startsAt
  closed : ∀ bar ∈ series, bar.startsAt + call.interval.duration ≤ call.now
  capped : ∀ bar ∈ series, bar.startsAt ≤ call.lastClosedStart
  real : ∀ bar ∈ series, isNoTradeBar bar = false →
    bar ∈ provider.candles call.productId call.interval
  flat : ∀ bar ∈ series, isNoTradeBar bar = true →
    bar.startsAt < call.settleEnd ∧
    bar.startsAt + call.interval.duration ≤ call.now - publicationSettle ∧
    ∃ before ∈ series, ∃ after ∈ series,
      isNoTradeBar before = false ∧ isNoTradeBar after = false ∧
      before.startsAt < bar.startsAt ∧ bar.startsAt < after.startsAt ∧
      bar = noTradeBar bar.startsAt before.close
  endsReal : ∀ bar, series.getLast? = some bar → isNoTradeBar bar = false

section

variable {provider other : Provider} {call : Call}

theorem Provider.isNoTradeBar_eq_false (provider : Provider) {productId : String}
    {interval : CandleInterval} {candle : Candle}
    (hcandle : candle ∈ provider.candles productId interval) : isNoTradeBar candle = false := by
  simpa [isNoTradeBar] using (provider.traded productId interval candle hcandle).ne'

/-- Candles up to the cap decide the series. -/
theorem AgreeUpTo.series_eq (h : AgreeUpTo provider other call)
    (hcap : call.interval.duration ∣ call.lastClosedStart) :
    other.series call = provider.series call := by
  have hrange : ∀ {start stop : Time}, stop ≤ call.requestedEnd →
      within (other.candles call.productId call.interval) start stop =
        within (provider.candles call.productId call.interval) start stop := by
    intro start stop hstop
    refine ((other.ascending _ _).range _ _).ext ((provider.ascending _ _).range _ _) ?_
    intro candle
    rw [mem_within, mem_within]
    -- a candle of either provider before the requested end starts at the cap at the latest
    have hcapped : call.interval.duration ∣ candle.startsAt → candle.startsAt < stop →
        candle.startsAt ≤ call.lastClosedStart := by
      intro hgrid hlt
      have hend : candle.startsAt < call.lastClosedStart + call.interval.duration :=
        lt_of_lt_of_le hlt (hstop.trans (min_le_left _ _))
      have hle := le_newest_of_aligned call.interval.duration_pos hgrid (dvd_add hcap dvd_rfl) hend
      rwa [add_sub_cancel_right] at hle
    constructor
    · rintro ⟨hmem, hge, hlt⟩
      exact ⟨(h candle (hcapped (other.onGrid _ _ _ hmem) hlt)).mpr hmem, hge, hlt⟩
    · rintro ⟨hmem, hge, hlt⟩
      exact ⟨(h candle (hcapped (provider.onGrid _ _ _ hmem) hlt)).mp hmem, hge, hlt⟩
  unfold Provider.series
  split
  · rfl
  next hopen =>
    have hstart : call.startsAt ≤ call.requestedEnd := (not_le.mp (not_or.mp hopen).2).le
    have hends : max call.startsAt call.settleEnd ≤ call.requestedEnd :=
      max_le hstart ((min_le_left _ _).trans (sub_le_self _ call.interval.duration_pos.le))
    unfold settledSeries
    rw [hrange hends, hrange le_rfl]

theorem faithfulSeries_series (provider : Provider) (call : Call)
    (hcap : call.interval.duration ∣ call.lastClosedStart) :
    FaithfulSeries provider call (provider.series call) := by
  by_cases hempty : call.lastClosedStart < call.startsAt ∨ call.requestedEnd ≤ call.startsAt
  · rw [Provider.series, if_pos hempty]
    constructor <;> simp [Ascending]
  have hstart : call.startsAt ≤ call.requestedEnd := (not_le.mp (not_or.mp hempty).2).le
  have hends : max call.startsAt call.settleEnd ≤ call.requestedEnd :=
    max_le hstart ((min_le_left _ _).trans (sub_le_self _ call.interval.duration_pos.le))
  have hsorted := provider.ascending call.productId call.interval
  have hstep := call.interval.duration_pos
  rw [Provider.series, if_neg hempty]
  have hbegins : call.startsAt ≤ max call.startsAt call.settleEnd := le_max_left _ _
  -- every bar is on the grid and starts before the requested end
  have hplace : ∀ bar ∈ settledSeries (provider.candles call.productId call.interval) call.interval
      call.startsAt (max call.startsAt call.settleEnd) call.requestedEnd,
      call.interval.duration ∣ bar.startsAt ∧ bar.startsAt < call.requestedEnd := by
    intro bar hbar
    rcases mem_settledSeries hsorted hends hbegins hbar with hmem | ⟨before, hbefore, after, hafter,
      t, -, hhigh, -, hgrid, rfl⟩
    · obtain ⟨hmem, -, hlt⟩ := mem_within.mp hmem
      exact ⟨provider.onGrid _ _ bar hmem, hlt⟩
    · have hbase := provider.onGrid _ _ before (mem_within.mp hbefore).1
      refine ⟨?_, lt_trans hhigh (mem_within.mp hafter).2.2⟩
      have := dvd_add hgrid hbase
      rwa [sub_add_cancel] at this
  refine ⟨ascending_settledSeries hsorted _ _ _ _, fun bar hbar => (hplace bar hbar).1, ?_, ?_, ?_,
    ?_, fun bar hlast => provider.isNoTradeBar_eq_false (getLast?_settledSeries hlast)⟩
  · intro bar hbar
    obtain ⟨hgrid, hlt⟩ := hplace bar hbar
    have hle := le_newest_of_aligned hstep hgrid (call.interval.dvd_alignClosedEnd call.now)
      (lt_of_lt_of_le hlt (min_le_right _ _))
    have hclosed := call.interval.alignClosedEnd_le call.now
    linarith
  · intro bar hbar
    obtain ⟨hgrid, hlt⟩ := hplace bar hbar
    have hle := le_newest_of_aligned hstep hgrid (dvd_add hcap dvd_rfl)
      (lt_of_lt_of_le hlt (min_le_left _ _))
    rwa [add_sub_cancel_right] at hle
  · intro bar hbar hreal
    rcases mem_settledSeries hsorted hends hbegins hbar with hmem | ⟨before, -, -, -, t, -, -, -, -,
      rfl⟩
    · exact (mem_within.mp hmem).1
    · rw [isNoTradeBar_flatAfter] at hreal
      cases hreal
  · intro bar hbar hflat
    rcases mem_settledSeries hsorted hends hbegins hbar with hmem | ⟨before, hbefore, after, hafter,
      t, hlow, hhigh, hsettle, -, rfl⟩
    · rw [provider.isNoTradeBar_eq_false (mem_within.mp hmem).1] at hflat
      cases hflat
    · have hsettled : t < call.settleEnd := by
        rcases lt_max_iff.mp hsettle with hearly | hlt
        · exact absurd ((mem_within.mp hbefore).2.1.trans hlow.le) (not_le.mpr hearly)
        · exact hlt
      have hle := le_newest_of_aligned hstep (hplace _ hbar).1
        (call.interval.dvd_alignClosedEnd (call.now - publicationSettle))
        (lt_of_lt_of_le hsettled (min_le_right _ _))
      have hclosed := call.interval.alignClosedEnd_le (call.now - publicationSettle)
      refine ⟨hsettled, by linarith, before, subset_settledSeries hsorted hbegins hends hbefore,
        after, subset_settledSeries hsorted hbegins hends hafter,
        provider.isNoTradeBar_eq_false (mem_within.mp hbefore).1,
        provider.isNoTradeBar_eq_false (mem_within.mp hafter).1, hlow, hhigh, rfl⟩

end

/-- After any run of calls whose clock does not go back, a call that returns gives what a fresh
cache of any size with a sufficient budget returns, for every provider with the same candles up to
the cap; and the series is faithful to the provider. -/
theorem closedWindow_transparent (provider : Provider) (limit requests : Nat) (earlier : List Call)
    (call : Call)
    (hclock : (earlier ++ [call]).Pairwise (fun before after => before.now ≤ after.now))
    (hcap : call.interval.duration ∣ call.lastClosedStart) {series : List Candle}
    (hreturns : (closedWindow (cacheAfter provider requests { maxTotalCandles := limit } earlier)
      requests (provider.fetch call) call).1 = .ok series) :
    (∀ other, AgreeUpTo provider other call → ∃ enough, ∀ fresh budget, enough ≤ budget →
      (closedWindow { maxTotalCandles := fresh } budget (other.fetch call) call).1 = .ok series) ∧
    FaithfulSeries provider call series := by
  obtain ⟨hearlier, -, hlast⟩ := pairwise_append.mp hclock
  have hsound := sound_cacheAfter provider limit requests hearlier
    (fun before hmem => hlast before hmem call (by simp))
  obtain rfl := (hsound.after_call le_rfl requests).2 hcap series hreturns
  refine ⟨fun other hagree => ?_, faithfulSeries_series provider call hcap⟩
  refine ⟨scanWork call.settleEnd { scannedEnd := call.startsAt } + 1, fun fresh budget hbudget => ?_⟩
  have hfresh : scanWork call.settleEnd ((Dict.get? Dict.empty call.key).getD
      { scannedEnd := call.startsAt }) < budget := Nat.lt_of_succ_le hbudget
  rw [(sound_empty other call.now fresh).enough le_rfl hcap hfresh, hagree.series_eq hcap]

/-! ### A quiet minute -/

def minuteCandle (minutes : Int) (close : Decimal) : Candle :=
  { startsAt := minutes * 60000000, open_ := close, high := close, low := close, close
    volume := 1 }

/-- A market whose third minute has no trade. -/
def quietMinute : Provider where
  candles productId interval :=
    if productId = "BTC-USD" ∧ interval = .oneMinute then
      [minuteCandle 0 10, minuteCandle 1 11, minuteCandle 3 12, minuteCandle 4 13]
    else []
  ascending productId interval := by
    split
    · unfold Ascending; decide
    · exact List.Pairwise.nil
  onGrid productId interval := by
    split
    next h => rw [h.2]; decide
    · simp
  traded productId interval := by
    split
    · decide
    · simp

def fiveMinutesCall : Call := ⟨"BTC-USD", .oneMinute, 0, 4 * 60000000, 600000000⟩
def fourMinutesCall : Call := ⟨"BTC-USD", .oneMinute, 0, 3 * 60000000, 600000000⟩

/-- With two requests the first call runs out at its tail; the second is answered from what
it froze, cut back, with the quiet minute flat. -/
theorem quietMinute_transparent :
    (closedWindow { maxTotalCandles := 1 } 2 (quietMinute.fetch fiveMinutesCall)
      fiveMinutesCall).1 = .error ⟨"BTC-USD", .oneMinute, 0, 4 * 60000000, 5 * 60000000, 2⟩ ∧
    FaithfulSeries quietMinute fourMinutesCall
      [minuteCandle 0 10, minuteCandle 1 11, noTradeBar 120000000 11, minuteCandle 3 12] := by
  refine ⟨by rfl, ?_⟩
  exact (closedWindow_transparent quietMinute 1 2 [fiveMinutesCall] fourMinutesCall (by decide)
    (by decide) (by rfl)).2

end Thytrader.MarketData
