import Mathlib.Data.List.MinMax
import Mathlib.Data.Prod.Lex
import Mathlib.Data.String.Basic
import Thytrader.Backtest.Models

/-!
# Walk-forward studies

`research/study_planning.py` cuts an evaluation range into folds, each an in-sample and an
out-of-sample window; `study_assembly.py` and `sweep_selection.py` pick the candidate of a
fold from its in-sample results (`walkForward_never_leaks`). `StudyPlanningError` is a `ValueError`.

Unary minus on a `Decimal` rounds to the precision of the ambient context, so it is a
parameter of the selection.
-/

namespace Thytrader.Research

open Lib List MarketData Strategies Backtest

inductive FoldMode where
  | rolling
  | anchored
  deriving DecidableEq, Repr

inductive WindowRole where
  | inSample
  | outOfSample
  | fullWindow
  | sweepCandidate
  deriving DecidableEq, Repr

inductive SelectionMetric where
  | totalReturnFraction
  | totalNetPnl
  | maximumDrawdownFraction
  deriving DecidableEq, Repr

/-- The fields of a `ResearchStudyRequest` that cut the range and rank the candidates. -/
structure ResearchStudyRequest where
  evaluationStart : Time
  evaluationEnd : Time
  embargoBars : Bounded 0 10000
  inSampleBars : Option (Bounded 1 100000)
  outOfSampleBars : Option (Bounded 1 100000)
  stepBars : Option (Bounded 1 100000)
  foldMode : FoldMode := .rolling
  selectionMetric : SelectionMetric := .totalReturnFraction

/-! ## Splits -/

/-- `_bar_count`, in whole seconds. -/
def barCount (start stop : Time) (duration : Duration) : Result Nat :=
  let seconds := (stop - start).tdiv 1000000
  let step := duration.tdiv 1000000
  if step ≤ 0 ∨ seconds ≤ 0 ∨ seconds % step ≠ 0 then
    .error (.valueError "evaluation window must be a positive integer number of bars.")
  else .ok (seconds / step).toNat

def addBars (instant : Time) (bars : Nat) (duration : Duration) : Time := instant + duration * bars

def maxFolds : Nat := 24

/-- One emitted window. -/
structure Split where
  foldIndex : Nat
  role : WindowRole
  start : Time
  stop : Time
  deriving DecidableEq

/-- A request with its bar counts, and the clock it is cut on. -/
structure WalkForward where
  request : ResearchStudyRequest
  inSampleBars : Bounded 1 100000
  outOfSampleBars : Bounded 1 100000
  stepBars : Bounded 1 100000
  duration : Duration

namespace WalkForward

section

variable (plan : WalkForward) (foldIndex : Nat)

def isBars : Nat :=
  match plan.request.foldMode with
  | .anchored => plan.inSampleBars.value + foldIndex * plan.stepBars.value
  | .rolling => plan.inSampleBars.value

def isOffset : Nat :=
  match plan.request.foldMode with
  | .anchored => 0
  | .rolling => foldIndex * plan.stepBars.value

def isStart : Time :=
  addBars plan.request.evaluationStart (plan.isOffset foldIndex) plan.duration

def isEnd : Time := addBars (plan.isStart foldIndex) (plan.isBars foldIndex) plan.duration

def oosStart : Time :=
  addBars (plan.isEnd foldIndex) plan.request.embargoBars.value plan.duration

def oosEnd : Time := addBars (plan.oosStart foldIndex) plan.outOfSampleBars.value plan.duration

def needed : Nat :=
  plan.isOffset foldIndex + plan.isBars foldIndex + plan.request.embargoBars.value +
    plan.outOfSampleBars.value

/-- The two windows of a fold. -/
def splits : List Split :=
  [⟨foldIndex, .inSample, plan.isStart foldIndex, plan.isEnd foldIndex⟩,
    ⟨foldIndex, .outOfSample, plan.oosStart foldIndex, plan.oosEnd foldIndex⟩]

end

/-- The loop of `_walk_forward_splits`, with `rounds` rounds left under the cap. -/
def loop (plan : WalkForward) (totalBars : Nat) : Nat → Nat → List Split
  | 0, _ => []
  | rounds + 1, foldIndex =>
    if plan.request.evaluationEnd < plan.oosEnd foldIndex then []
    else if totalBars < plan.needed foldIndex then []
    else plan.splits foldIndex ++ loop plan totalBars rounds (foldIndex + 1)

end WalkForward

/-- The bar counts of a request, when it has all three. -/
def ResearchStudyRequest.walkForward (request : ResearchStudyRequest) (duration : Duration) :
    Option WalkForward := do
  return ⟨request, ← request.inSampleBars, ← request.outOfSampleBars, ← request.stepBars, duration⟩

/-- `_walk_forward_splits`, with the warnings it leaves. -/
def walkForwardSplits (request : ResearchStudyRequest) (totalBars : Nat) (duration : Duration)
    (warnings : List String) : Result (List Split × List String) :=
  match request.walkForward duration with
  | none => .error (.valueError "walk_forward requires bar counts.")
  | some plan =>
    let warnings :=
      if plan.stepBars.value < plan.outOfSampleBars.value then
        warnings ++ ["step_bars is smaller than out_of_sample_bars, so OOS windows overlap. " ++
          "Overlapping OOS metrics are not independent."]
      else warnings
    let folds := plan.loop totalBars maxFolds 0
    if folds = [] then
      .error (.valueError ("The evaluation window is too short for one walk-forward fold " ++
        "(in-sample, embargo, and out-of-sample bars)."))
    else .ok (folds, warnings)

namespace WalkForward

/-- The first folds of a plan, cut so that nothing leaks. -/
structure NeverLeaks (plan : WalkForward) (folds : Nat) (splits : List Split) : Prop where
  folded : splits = (range folds).flatMap plan.splits
  inside : ∀ split ∈ splits, ∃ first last : Nat, first < last ∧
    split.start = addBars plan.request.evaluationStart first plan.duration ∧
    split.stop = addBars plan.request.evaluationStart last plan.duration ∧
    split.stop ≤ plan.request.evaluationEnd
  embargoed : ∀ index < folds, addBars (plan.isEnd index) plan.request.embargoBars.value
    plan.duration ≤ plan.oosStart index
  disjoint : plan.outOfSampleBars.value ≤ plan.stepBars.value → ∀ index other, index < other →
    other < folds → plan.oosEnd index ≤ plan.oosStart other
  maximal : folds = maxFolds ∨ plan.request.evaluationEnd < plan.oosEnd folds

variable {plan : WalkForward}

theorem addBars_add (instant : Time) (first last : Nat) (duration : Duration) :
    addBars (addBars instant first duration) last duration =
      addBars instant (first + last) duration := by
  unfold addBars
  push_cast
  ring

theorem addBars_le {duration : Duration} (h : 0 < duration) (instant : Time) {first last : Nat}
    (hle : first ≤ last) : addBars instant first duration ≤ addBars instant last duration :=
  add_le_add_right (mul_le_mul_of_nonneg_left (by exact_mod_cast hle) h.le) _

section

variable (plan : WalkForward) (foldIndex : Nat)

/-- In both modes a fold's in-sample window ends `step_bars` later than the one before. -/
theorem offset_add : plan.isOffset foldIndex + plan.isBars foldIndex =
    foldIndex * plan.stepBars.value + plan.inSampleBars.value := by
  unfold isOffset isBars
  cases plan.request.foldMode with
  | rolling => rfl
  | anchored => rw [Nat.zero_add, Nat.add_comm]

theorem isEnd_eq : plan.isEnd foldIndex = addBars plan.request.evaluationStart
    (plan.isOffset foldIndex + plan.isBars foldIndex) plan.duration :=
  addBars_add _ _ _ _

theorem oosStart_eq : plan.oosStart foldIndex = addBars plan.request.evaluationStart
    (plan.isOffset foldIndex + plan.isBars foldIndex + plan.request.embargoBars.value)
    plan.duration := by
  rw [oosStart, isEnd_eq, addBars_add]

theorem oosEnd_eq : plan.oosEnd foldIndex =
    addBars plan.request.evaluationStart (plan.needed foldIndex) plan.duration := by
  rw [oosEnd, oosStart_eq, addBars_add, needed]

end

/-- The loop emits folds that fit, and stops at the cap or at one that does not. -/
theorem loop_spec (totalBars rounds foldIndex : Nat) : ∃ folds ≤ rounds,
    plan.loop totalBars rounds foldIndex = (range' foldIndex folds).flatMap plan.splits ∧
      (∀ index, foldIndex ≤ index → index < foldIndex + folds →
        plan.oosEnd index ≤ plan.request.evaluationEnd) ∧
      (folds = rounds ∨ plan.request.evaluationEnd < plan.oosEnd (foldIndex + folds) ∨
        totalBars < plan.needed (foldIndex + folds)) := by
  induction rounds generalizing foldIndex with
  | zero => exact ⟨0, le_rfl, rfl, fun _ _ _ => by omega, .inl rfl⟩
  | succ rounds ih =>
    unfold loop
    by_cases hend : plan.request.evaluationEnd < plan.oosEnd foldIndex
    · rw [if_pos hend]
      exact ⟨0, by omega, rfl, fun _ _ _ => by omega, .inr (.inl hend)⟩
    rw [if_neg hend]
    by_cases hneeded : totalBars < plan.needed foldIndex
    · rw [if_pos hneeded]
      exact ⟨0, by omega, rfl, fun _ _ _ => by omega, .inr (.inr hneeded)⟩
    rw [if_neg hneeded]
    obtain ⟨folds, hle, hloop, hfit, hstop⟩ := ih (foldIndex + 1)
    have hnext : foldIndex + 1 + folds = foldIndex + (folds + 1) := by omega
    rw [hnext] at hstop hfit
    refine ⟨folds + 1, by omega, by rw [hloop, range'_succ, flatMap_cons], ?_,
      hstop.imp_left (congrArg (· + 1))⟩
    intro index hfirst hlast
    rcases hfirst.eq_or_lt with rfl | hlater
    · exact not_lt.mp hend
    · exact hfit index hlater hlast

/-- More bars than the range counts do not fit into it. -/
theorem lt_addBars {start stop : Time} {interval : CandleInterval} {totalBars bars : Nat}
    (hcount : barCount start stop interval.duration = .ok totalBars) (h : totalBars < bars) :
    stop < addBars start bars interval.duration := by
  obtain ⟨hvalid, hcount⟩ := of_ite_ne hcount nofun
  have hstep : interval.duration = interval.duration.tdiv 1000000 * 1000000 := by
    cases interval <;> rfl
  rw [addBars, hstep]
  generalize interval.duration.tdiv 1000000 = step at hvalid hcount
  obtain ⟨hpositive, hafter, hdivides⟩ := not_or.mp hvalid |>.imp not_le.mp not_or.mp
  have hwhole := Int.mul_ediv_cancel' (Int.dvd_of_emod_eq_zero (not_not.mp hdivides))
  have htotal := Int.toNat_of_nonneg (Int.ediv_nonneg (not_le.mp hafter).le hpositive.le)
  rw [Except.ok.inj hcount] at htotal
  rw [← htotal] at hwhole
  have hbars : step * (totalBars + 1 : Int) ≤ step * bars :=
    mul_le_mul_of_nonneg_left (by exact_mod_cast h) hpositive.le
  have hspan := Int.lt_tdiv_add_one_mul_self (stop - start) (show (0 : Int) < 1000000 by decide)
  nlinarith

/-- The folds up to one that does not fit do not leak. -/
theorem neverLeaks {folds : Nat} (hclock : 0 < plan.duration)
    (hfit : ∀ index < folds, plan.oosEnd index ≤ plan.request.evaluationEnd)
    (hstop : folds = maxFolds ∨ plan.request.evaluationEnd < plan.oosEnd folds) :
    plan.NeverLeaks folds ((range folds).flatMap plan.splits) := by
  refine ⟨rfl, ?_, fun _ _ => le_rfl, ?_, hstop⟩
  · intro split hsplit
    obtain ⟨index, hindex, hmem⟩ := mem_flatMap.mp hsplit
    have hend := hfit index (mem_range.mp hindex)
    rcases mem_cons.mp hmem with rfl | hmem
    · have hbars := plan.offset_add index
      have hin := plan.inSampleBars.lower
      have hoffset : plan.isOffset index ≤ index * plan.stepBars.value := by
        unfold isOffset
        split <;> omega
      have hle : plan.isEnd index ≤ plan.oosEnd index := by
        rw [isEnd_eq, oosEnd_eq]
        exact addBars_le hclock _ (by unfold needed; omega)
      exact ⟨_, _, by omega, rfl, plan.isEnd_eq index, hle.trans hend⟩
    · rw [mem_singleton.mp hmem]
      exact ⟨_, _, Nat.lt_add_of_pos_right plan.outOfSampleBars.lower, plan.oosStart_eq index,
        plan.oosEnd_eq index, hend⟩
  · intro hstep index other hlt _
    -- one step covers the whole out-of-sample window
    have hnext : (index + 1) * plan.stepBars.value ≤ other * plan.stepBars.value :=
      Nat.mul_le_mul_right _ hlt
    rw [Nat.add_mul] at hnext
    have hindex := plan.offset_add index
    have hother := plan.offset_add other
    rw [oosEnd_eq, oosStart_eq]
    exact addBars_le hclock _ (by unfold needed; omega)

end WalkForward

/-! ## Selection -/

/-- The fields of a `StudyWindowResult` that the selection reads. -/
structure StudyWindowResult where
  role : WindowRole
  foldIndex : Nat
  strategyFingerprint : String
  summary : BacktestSummary

def metricValue (summary : BacktestSummary) : SelectionMetric → Decimal
  | .totalReturnFraction => summary.totalReturnFraction
  | .totalNetPnl => summary.totalNetPnl
  | .maximumDrawdownFraction => summary.maximumDrawdownFraction

variable (minus : Decimal → Decimal) (metric : SelectionMetric)

/-- `_key`. -/
def selectionKey (item : String × Decimal) : Decimal ×ₗ String :=
  let ordered := if metric = .maximumDrawdownFraction then item.2 else minus item.2
  toLex (ordered, item.1)

def selectCandidateFingerprint (scored : List (String × Decimal)) : Result String :=
  match scored.argmin (selectionKey minus metric) with
  | none => .error (.valueError "selection requires at least one in-sample score")
  | some item => .ok item.1

/-- The scored in-sample windows of a fold. -/
def insampleScores (windows : List StudyWindowResult) (foldIndex : Nat) : List (String × Decimal) :=
  (windows.filter (fun item => item.foldIndex = foldIndex ∧ item.role = .inSample)).map
    (fun item => (item.strategyFingerprint, metricValue item.summary metric))

def wfoSelectedByFold (windows : List StudyWindowResult) : Result (Dict Nat String) :=
  (windows.map (·.foldIndex)).eraseDups.foldlM (fun selectedByFold foldIndex => do
    let winner ← selectCandidateFingerprint minus metric (insampleScores metric windows foldIndex)
    return selectedByFold.set foldIndex winner) Dict.empty

variable {minus metric}

/-- The order of the scores does not matter: the fingerprint is part of the key. -/
theorem select_perm {scored other : List (String × Decimal)} (h : scored.Perm other) :
    selectCandidateFingerprint minus metric scored =
      selectCandidateFingerprint minus metric other := by
  unfold selectCandidateFingerprint
  cases hfirst : scored.argmin (selectionKey minus metric) with
  | none =>
    obtain rfl := argmin_eq_none.mp hfirst
    rw [← h.nil_eq]
    rfl
  | some item =>
    cases hsecond : other.argmin (selectionKey minus metric) with
    | none =>
      obtain rfl := argmin_eq_none.mp hsecond
      rw [h.eq_nil] at hfirst
      cases hfirst
    | some =>
      have hle := le_of_mem_argmin (h.mem_iff.mpr (argmin_mem hsecond)) hfirst
      have hge := le_of_mem_argmin (h.mem_iff.mp (argmin_mem hfirst)) hsecond
      exact congrArg (fun key => Except.ok (ofLex key).2) (le_antisymm hle hge)

/-- The fold of `_wfo_selected_by_fold` stores the winner of every fold it reads. -/
theorem foldlM_winners {winner : Nat → Result String} {folds : List Nat}
    (h : ∀ foldIndex ∈ folds, ∃ won, winner foldIndex = .ok won) (selected : Dict Nat String) :
    ∃ next, folds.foldlM (fun selectedByFold foldIndex => do
        let won ← winner foldIndex
        return selectedByFold.set foldIndex won) selected = .ok next ∧
      (∀ foldIndex ∉ folds, next.get? foldIndex = selected.get? foldIndex) ∧
      ∀ foldIndex ∈ folds, ∃ won, winner foldIndex = .ok won ∧
        next.get? foldIndex = some won := by
  induction folds generalizing selected with
  | nil => exact ⟨selected, rfl, fun _ _ => rfl, by simp⟩
  | cons first rest ih =>
    obtain ⟨won, hwon⟩ := h first mem_cons_self
    obtain ⟨next, hnext, hkept, hwins⟩ :=
      ih (fun foldIndex hmem => h foldIndex (mem_cons_of_mem _ hmem)) (selected.set first won)
    refine ⟨next, by rw [foldlM_cons, hwon]; exact hnext, ?_, ?_⟩
    · intro foldIndex hmem
      obtain ⟨hne, hrest⟩ := not_or.mp (mt mem_cons.mpr hmem)
      rw [hkept foldIndex hrest, Dict.get?_set_ne hne]
    · intro foldIndex hmem
      by_cases hrest : foldIndex ∈ rest
      · exact hwins foldIndex hrest
      obtain rfl := (mem_cons.mp hmem).resolve_right hrest
      exact ⟨won, hwon, by rw [hkept foldIndex hrest, Dict.get?_set_self]⟩

/-- The folds of an accepted range lie on its grid, keep their embargo, do not overlap out of sample
unless the step is shorter, and are as many as fit under the cap; a fold's candidate depends on its
in-sample results alone. -/
theorem walkForward_never_leaks (minus : Decimal → Decimal) {request : ResearchStudyRequest}
    {interval : CandleInterval} {totalBars : Nat} {warnings warned : List String}
    {splits : List Split}
    (hcount : barCount request.evaluationStart request.evaluationEnd interval.duration =
      .ok totalBars)
    (hsplits : walkForwardSplits request totalBars interval.duration warnings =
      .ok (splits, warned)) :
    (∃ plan folds, request.walkForward interval.duration = some plan ∧ 0 < folds ∧
      plan.NeverLeaks folds splits) ∧
      ∃ pick : Multiset (String × Decimal) → Result String, ∀ windows,
        (∀ item ∈ windows,
          insampleScores request.selectionMetric windows item.foldIndex ≠ []) →
        ∃ selected, wfoSelectedByFold minus request.selectionMetric windows = .ok selected ∧
          ∀ item ∈ windows, ∃ won,
            pick (insampleScores request.selectionMetric windows item.foldIndex) = .ok won ∧
              selected.get? item.foldIndex = some won := by
  constructor
  · unfold walkForwardSplits at hsplits
    cases hplan : request.walkForward interval.duration with
    | none => simp only [hplan, reduceCtorEq] at hsplits
    | some plan =>
      simp only [hplan] at hsplits
      obtain ⟨hsome, hsplits⟩ := of_ite_ne hsplits nofun
      obtain ⟨hrequest, hclock⟩ : plan.request = request ∧ plan.duration = interval.duration := by
        simp only [ResearchStudyRequest.walkForward, Option.bind_eq_bind, Option.bind_eq_some_iff,
          Option.pure_def, Option.some.injEq] at hplan
        obtain ⟨_, _, _, _, _, _, rfl⟩ := hplan
        exact ⟨rfl, rfl⟩
      obtain ⟨folds, -, hloop, hfit, hstop⟩ := plan.loop_spec totalBars maxFolds 0
      rw [← (Prod.mk.inj (Except.ok.inj hsplits)).1]
      rw [hloop] at hsome ⊢
      refine ⟨plan, folds, rfl, Nat.pos_of_ne_zero (by rintro rfl; exact hsome rfl), ?_⟩
      rw [← range_eq_range']
      refine WalkForward.neverLeaks (hclock ▸ interval.duration_pos)
        (fun index hindex => hfit index (Nat.zero_le _) (by omega)) (hstop.imp_right ?_)
      rw [Nat.zero_add]
      rintro (hend | hneeded)
      · exact hend
      · rw [WalkForward.oosEnd_eq, hclock, hrequest]
        exact WalkForward.lt_addBars hcount hneeded
  · refine ⟨fun scores => Quotient.liftOn scores
      (selectCandidateFingerprint minus request.selectionMetric) (fun _ _ => select_perm), ?_⟩
    intro windows hscored
    have hwon : ∀ foldIndex ∈ (windows.map (·.foldIndex)).eraseDups, ∃ won,
        selectCandidateFingerprint minus request.selectionMetric
          (insampleScores request.selectionMetric windows foldIndex) = .ok won := by
      intro foldIndex hmem
      obtain ⟨item, hitem, rfl⟩ := mem_map.mp (mem_eraseDups.mp hmem)
      unfold selectCandidateFingerprint
      split
      next hnone => exact absurd (argmin_eq_none.mp hnone) (hscored item hitem)
      next best _ => exact ⟨best.1, rfl⟩
    obtain ⟨selected, hrun, -, hwins⟩ := foldlM_winners hwon Dict.empty
    exact ⟨selected, hrun, fun item hitem =>
      hwins _ (mem_eraseDups.mpr (mem_map_of_mem hitem))⟩

/-- Ten hourly bars, of which each fold takes seven. -/
def hourlyStudy : ResearchStudyRequest where
  evaluationStart := 0
  evaluationEnd := 10 * CandleInterval.oneHour.duration
  embargoBars := ⟨1, by decide, by decide⟩
  inSampleBars := some ⟨4, by decide, by decide⟩
  outOfSampleBars := some ⟨2, Nat.le_add_left 1 1, by decide⟩
  stepBars := some ⟨3, by decide, by decide⟩

def insampleRun (foldIndex : Nat) (candidate : String) (profit : Decimal) : StudyWindowResult :=
  ⟨.inSample, foldIndex, candidate, ⟨1000, 1000 + profit, profit, profit / 1000, 0, 0, 0, none, none,
    none, 0, 0, 0, 0, 0, 4, none, [], none⟩⟩

/-- Two candidates scored in the first fold, one in the second. -/
theorem walkForward_never_leaks_hourly :
    (∃ splits plan folds, hourlyStudy.walkForward CandleInterval.oneHour.duration = some plan ∧
      0 < folds ∧ plan.NeverLeaks folds splits) ∧
    ∃ selected, wfoSelectedByFold Neg.neg hourlyStudy.selectionMetric
        [insampleRun 0 "a" 5, insampleRun 0 "b" 7, insampleRun 1 "a" (-2)] = .ok selected ∧
      (selected.get? 0).isSome ∧ (selected.get? 1).isSome := by
  obtain ⟨hcut, pick, hpicks⟩ := walkForward_never_leaks Neg.neg
    (show barCount 0 _ CandleInterval.oneHour.duration = .ok 10 from rfl)
    (show walkForwardSplits hourlyStudy 10 _ [] = _ from rfl)
  obtain ⟨selected, hselected, hwon⟩ :=
    hpicks [insampleRun 0 "a" 5, insampleRun 0 "b" 7, insampleRun 1 "a" (-2)] (by decide +kernel)
  obtain ⟨_, -, hfirst⟩ := hwon _ mem_cons_self
  obtain ⟨_, -, hsecond⟩ := hwon (insampleRun 1 "a" (-2)) (by simp)
  exact ⟨⟨_, hcut⟩, selected, hselected, Option.isSome_of_eq_some hfirst,
    Option.isSome_of_eq_some hsecond⟩

end Thytrader.Research
