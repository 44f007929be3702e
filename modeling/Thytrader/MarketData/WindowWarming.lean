import Thytrader.MarketData.WindowCache

/-!
# A warming window gets warm

Every `closed_window` call that runs out of requests has moved `scanned_end` of its window on:
two turns of the scan freeze a block even when the first only makes it pending. An earlier cap
forgets a pending block, but no call takes `scanned_end` back, so the calls for one cap are
answered after finitely many, whatever is asked about the window in between
(`closedWindow_warms`).
-/

namespace Thytrader.MarketData

open Lib

/-! ## Scanning -/

variable (fetch : RangeFetcher) (key : WindowKey) (settleEnd : Time) {state : WindowState}

theorem extendPrefix_forward (h : PendingAhead state) (requests : Nat) :
    PendingAhead (extendPrefix fetch key settleEnd requests state).2 ∧
      state.scannedEnd ≤ (extendPrefix fetch key settleEnd requests state).2.scannedEnd := by
  induction requests generalizing state with
  | zero =>
    unfold extendPrefix
    split <;> exact ⟨h, le_rfl⟩
  | succ requests ih =>
    unfold extendPrefix
    split
    next hbefore =>
      obtain ⟨hahead, hmoved⟩ := scanBlock_progress fetch key settleEnd h hbefore
      refine ⟨(ih hahead).1, le_trans ?_ (ih hahead).2⟩
      exact hmoved.elim le_of_lt (fun hsame => hsame.1.ge)
    · exact ⟨h, le_rfl⟩

/-- Two requests are enough to move on. -/
theorem extendPrefix_advances (h : PendingAhead state) (requests : Nat)
    (hbefore : state.scannedEnd < settleEnd) :
    state.scannedEnd < (extendPrefix fetch key settleEnd (requests + 2) state).2.scannedEnd := by
  obtain ⟨hahead, hmoved | ⟨hsame, -, hkept⟩⟩ :=
    scanBlock_progress fetch key settleEnd h hbefore
  · rw [extendPrefix, if_pos hbefore]
    exact hmoved.trans_le (extendPrefix_forward fetch key settleEnd hahead _).2
  · have hstill := hsame.trans_lt hbefore
    rw [extendPrefix, if_pos hbefore, extendPrefix, if_pos hstill, ← hsame]
    obtain ⟨hahead, hmoved | ⟨-, hnone, -⟩⟩ :=
      scanBlock_progress fetch key settleEnd hahead hstill
    · exact hmoved.trans_le (extendPrefix_forward fetch key settleEnd hahead _).2
    · exact absurd hnone hkept

namespace DeployWindowCache

variable {cache : DeployWindowCache} {call : Call}

/-! ## One call -/

def window (cache : DeployWindowCache) (key : WindowKey) : WindowState :=
  (cache.windows.get? key).getD { scannedEnd := key.startsAt }

/-- `budget.used`: a scan with `left` requests left, and the tail. -/
def rangeRequests (cache : DeployWindowCache) (requests : Nat) (fetch : RangeFetcher)
    (call : Call) : Nat :=
  if call.lastClosedStart < call.startsAt ∨ call.requestedEnd ≤ call.startsAt then 0
  else
    match extendPrefix fetch call.key call.settleEnd requests (cache.window call.key) with
    | (none, _) => requests
    | (some left, state) =>
      if call.requestedEnd ≤ state.scannedEnd ∨ left = 0 then requests - left
      else requests - left + 1

theorem rangeRequests_le (requests : Nat) :
    cache.rangeRequests (requests + 1) fetch call ≤ requests + 1 := by
  unfold rangeRequests
  split
  · exact Nat.zero_le _
  · split
    · exact le_rfl
    next left _ _ =>
      split
      · exact Nat.sub_le _ _
      next hmore =>
        have := (not_or.mp hmore).2
        omega

/-- It is what a raising call reports. -/
theorem rangeRequests_eq {requests : Nat} {fetch : RangeFetcher} {error : WindowCacheWarming}
    (h : (cache.closedWindow requests fetch call).1 = .error error) :
    cache.rangeRequests requests fetch call = error.rangeRequests := by
  unfold closedWindow at h
  unfold rangeRequests window
  split at h
  · cases h
  split at h
  · cases h
  next hstart hend =>
    rw [if_neg (not_or.mpr ⟨hstart, hend⟩)]
    dsimp only [Call.key] at h ⊢
    generalize extendPrefix _ _ _ requests _ = scanned at h ⊢
    obtain ⟨left, _⟩ := scanned
    cases left with
    | none =>
      cases h
      rfl
    | some left =>
      dsimp only at h ⊢
      split at h
      · cases h
      · split at h
        next hleft =>
          subst hleft
          cases h
          rw [if_pos (.inr rfl)]
          rfl
        · cases h

theorem evictIdle_getLast? (limit : Nat) (entries : List (WindowKey × WindowState)) :
    (evictIdle limit entries).getLast? = entries.getLast? := by
  induction entries with
  | nil => rfl
  | cons entry rest ih =>
    cases rest with
    | nil => rfl
    | cons next rest =>
      unfold evictIdle
      split
      · rw [ih, List.getLast?_cons_cons]
      · rfl

theorem window_remember (cache : DeployWindowCache) (key : WindowKey) (state : WindowState) :
    (cache.remember key state).window key = state := by
  have hmem : (key, state) ∈ (cache.remember key state).windows.entries := by
    refine List.mem_of_getLast? ((evictIdle_getLast? _ _).trans ?_)
    rw [Dict.entries_set_of_absent (Dict.get?_erase_self _ _), List.getLast?_concat]
  rw [window, Dict.get?_eq_some_iff.mpr hmem]
  rfl

/-- Every pending block of the cache ends after what its window has scanned. -/
def Ahead (cache : DeployWindowCache) : Prop :=
  ∀ key state, cache.windows.get? key = some state → PendingAhead state

theorem Ahead.window (h : Ahead cache) (key : WindowKey) : PendingAhead (cache.window key) := by
  unfold DeployWindowCache.window
  cases hstate : cache.windows.get? key with
  | none => simp [PendingAhead]
  | some state => exact h key state hstate

/-- A call never takes its window back, and one that runs out of requests moves it on. -/
theorem Ahead.closedWindow (h : Ahead cache) (requests : Nat) (fetch : RangeFetcher) (call : Call) :
    Ahead (cache.closedWindow (requests + 2) fetch call).2 ∧
    (cache.window call.key).scannedEnd ≤
      ((cache.closedWindow (requests + 2) fetch call).2.window call.key).scannedEnd ∧
    ∀ error, (cache.closedWindow (requests + 2) fetch call).1 = .error error →
      (cache.window call.key).scannedEnd <
        ((cache.closedWindow (requests + 2) fetch call).2.window call.key).scannedEnd ∧
      (cache.window call.key).scannedEnd < call.settleEnd := by
  obtain ⟨hahead, hforward⟩ :=
    extendPrefix_forward fetch call.key call.settleEnd (h.window call.key) (requests + 2)
  have hcache := forall_remember (forall_remember h call.key (h.window call.key)) call.key hahead
  have hadvances :=
    extendPrefix_advances fetch call.key call.settleEnd (h.window call.key) requests
  -- a scan that was done before leaves its requests to the tail
  have hdone : ¬ (cache.window call.key).scannedEnd < call.settleEnd →
      (extendPrefix fetch call.key call.settleEnd (requests + 2) (cache.window call.key)).1 =
        some (requests + 2) := by
    intro hdone
    rw [extendPrefix, if_neg hdone]
  unfold DeployWindowCache.closedWindow
  split
  · exact ⟨h, le_rfl, by simp⟩
  · split
    · exact ⟨h, le_rfl, by simp⟩
    · have hstate : (cache.windows.get? call.key).getD { scannedEnd := call.startsAt } =
          cache.window call.key := rfl
      dsimp only
      rw [hstate]
      rcases hextend : extendPrefix fetch call.key call.settleEnd (requests + 2)
        (cache.window call.key) with ⟨left, after⟩
      rw [hextend] at hcache hforward hadvances hdone
      have hraised (hleft : left ≠ some (requests + 2)) :
          (cache.window call.key).scannedEnd < after.scannedEnd ∧
            (cache.window call.key).scannedEnd < call.settleEnd := by
        have hbefore := not_not.mp (fun hbefore => hleft (hdone hbefore))
        exact ⟨hadvances hbefore, hbefore⟩
      cases left with
      | none =>
        rw [window_remember]
        exact ⟨hcache, hforward, fun _ _ => hraised (by simp)⟩
      | some left =>
        dsimp only
        split
        · rw [window_remember]
          exact ⟨hcache, hforward, by simp⟩
        · split
          next hnone =>
            rw [window_remember]
            exact ⟨hcache, hforward, fun _ _ => hraised (by simp [hnone])⟩
          · rw [window_remember]
            exact ⟨hcache, hforward, by simp⟩

/-! ## Runs of calls -/

variable (fetch : Call → RangeFetcher)

/-- A call with the budget of a cycle. -/
def ask (cache : DeployWindowCache) (call : Call) :
    Except WindowCacheWarming (List Candle) × DeployWindowCache :=
  cache.closedWindow maxRangeRequestsPerCycle (fetch call) call

def afterCalls (cache : DeployWindowCache) (calls : List Call) : DeployWindowCache :=
  calls.foldl (fun cache call => (ask fetch cache call).2) cache

theorem Ahead.afterCalls (h : Ahead cache) (calls : List Call) :
    Ahead (cache.afterCalls fetch calls) := by
  induction calls generalizing cache with
  | nil => exact h
  | cons call rest ih => exact ih (h.closedWindow 6 (fetch call) call).1

/-- Calls for one cap that all ran out of requests are no more than the instants to scan: each may
find only a little more settled than the last. -/
theorem Ahead.warming_le (h : Ahead cache) {key : WindowKey} {cap : Time} {calls : List Call}
    (hkey : ∀ call ∈ calls, call.key = key)
    (hwarming : ∀ before call after, calls = before ++ call :: after →
      call.lastClosedStart = cap → ∀ series, (ask fetch (cache.afterCalls fetch before) call).1 ≠
        .ok series) :
    calls.countP (fun call => call.lastClosedStart = cap) ≤
      (cap - (cache.window key).scannedEnd).toNat := by
  induction calls generalizing cache with
  | nil => exact Nat.zero_le _
  | cons call rest ih =>
    obtain ⟨hahead, hforward, hraises⟩ := h.closedWindow 6 (fetch call) call
    have hrest := ih hahead (fun other hother => hkey other (List.mem_cons_of_mem _ hother))
      (fun before other after hsplit => hwarming (call :: before) other after (by rw [hsplit]; rfl))
    obtain rfl := hkey call List.mem_cons_self
    rw [List.countP_cons]
    split
    next hcap =>
      obtain rfl := of_decide_eq_true hcap
      cases hresult : (ask fetch cache call).1 with
      | ok series => exact absurd hresult (hwarming [] call rest rfl rfl series)
      | error error =>
        obtain ⟨hmoved, hbefore⟩ := hraises error hresult
        have hsettle : call.settleEnd ≤ call.lastClosedStart :=
          (min_le_left _ _).trans (sub_le_iff_le_add.mpr (min_le_left _ _))
        have hless := (Int.toNat_lt_toNat (sub_pos.mpr (hbefore.trans_le hsettle))).mpr
          (sub_lt_sub_left hmoved call.lastClosedStart)
        exact Nat.succ_le_of_lt (hrest.trans_lt hless)
    · exact hrest.trans (Int.toNat_le_toNat (sub_le_sub_left hforward _))

/-- How a window warms over a run of calls, those for `cap` being the repeated ones. -/
structure Warms (cache : DeployWindowCache) (key : WindowKey) (cap : Time) (calls : List Call) :
    Prop where
  bounded : ∀ before call after, calls = before ++ call :: after →
    (cache.afterCalls fetch before).rangeRequests maxRangeRequestsPerCycle (fetch call) call ≤
      maxRangeRequestsPerCycle
  advances : ∀ before call after error, calls = before ++ call :: after →
    (ask fetch (cache.afterCalls fetch before) call).1 = .error error →
      ((cache.afterCalls fetch before).window key).scannedEnd <
        ((ask fetch (cache.afterCalls fetch before) call).2.window key).scannedEnd
  returns : (cap - (cache.window key).scannedEnd).toNat <
      calls.countP (fun call => call.lastClosedStart = cap) →
    ∃ before call after, calls = before ++ call :: after ∧ call.lastClosedStart = cap ∧
      ∃ series, (ask fetch (cache.afterCalls fetch before) call).1 = .ok series

/-- Whatever was asked before, every run of calls about one window warms it. -/
theorem closedWindow_warms (limit : Nat) (earlier : List Call) (key : WindowKey) (cap : Time)
    (calls : List Call) (hkey : ∀ call ∈ calls, call.key = key) :
    Warms fetch (afterCalls fetch { maxTotalCandles := limit } earlier) key cap calls := by
  have hempty : Ahead { maxTotalCandles := limit } := by
    intro key state hstate
    cases hstate
  have hearlier := hempty.afterCalls fetch earlier
  refine ⟨fun _ _ _ _ => rangeRequests_le _ 7, ?_, ?_⟩
  · intro before call after error hsplit herror
    obtain rfl := hkey call (by simp [hsplit])
    exact (((hearlier.afterCalls fetch before).closedWindow 6 (fetch call) call).2.2 error herror).1
  · intro hmany
    by_contra hnone
    refine absurd (hearlier.warming_le fetch hkey ?_) (not_le.mpr hmany)
    intro before call after hsplit hcap series hok
    exact hnone ⟨before, call, after, hsplit, hcap, series, hok⟩

def minuteCall (cap : Int) : Call :=
  ⟨"BTC-USD", .oneMinute, 0, cap * minuteLength, 5000 * minuteLength⟩

/-- A first call has scanned four blocks; a second one for the cap runs out of requests again, and
an earlier cap is answered. -/
theorem minuteCall_warms :
    let fetch : Call → RangeFetcher := fun _ _ _ => []
    let cache := afterCalls fetch { maxTotalCandles := 1 } [minuteCall 3000]
    Warms fetch cache ⟨"BTC-USD", .oneMinute, 0⟩ (180 * minuteLength)
        [minuteCall 3000, minuteCall 180] ∧
      (∃ error, (ask fetch cache (minuteCall 3000)).1 = .error error) ∧
      ∃ before call after, [minuteCall 3000, minuteCall 180] = before ++ call :: after ∧
        call.lastClosedStart = 180 * minuteLength ∧
        ∃ series, (ask fetch (cache.afterCalls fetch before) call).1 = .ok series := by
  intro fetch cache
  have hwarms := closedWindow_warms fetch 1 [minuteCall 3000] ⟨"BTC-USD", .oneMinute, 0⟩
    (180 * minuteLength) [minuteCall 3000, minuteCall 180] (by decide)
  refine ⟨hwarms, ?_, hwarms.returns (by decide +kernel)⟩
  have hraised : (ask fetch cache (minuteCall 3000)).1.isOk = false := by decide +kernel
  cases hresult : (ask fetch cache (minuteCall 3000)).1 with
  | error error => exact ⟨error, rfl⟩
  | ok series => simp [hresult, Except.isOk, Except.toBool] at hraised

end DeployWindowCache

end Thytrader.MarketData
