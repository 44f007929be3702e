import Thytrader.Alerts.Store

/-!
# Which alerts are open

The watermark of a check is the greatest observation of it received so far, in the order
of times with a failure above its absence at the same instant, and a check has an open row
exactly when that observation is a failure. Both are facts about a set of observations, which
may come in any order, twice, or late (`open_alerts_of_evidence`).
-/

namespace Thytrader.Alerts

open Lib AlertStore List OperatorAlert Option

/-! ## One check -/

/-- What the store knows of one check. -/
structure CheckView where
  mark : Option (Time × Bool)
  rows : List OperatorAlert

def AlertStore.view (store : AlertStore) (check : AlertCheck) : CheckView :=
  ⟨store.checks.get? check, store.rows check⟩

def CheckView.openRow (view : CheckView) : Option OperatorAlert :=
  view.rows.reverse.find? isOpen

def observeCheck (pass : Pass) (check : AlertCheck) (view : CheckView) : CheckView :=
  let finding := pass.positive check
  if stale view.mark pass.now finding.isSome then view
  else
    { mark := some (pass.now, finding.isSome)
      rows := match finding, view.openRow with
        | some finding, none => view.rows ++ [newAlert finding pass.now (pass.ids check)]
        | some finding, some row => view.rows.dropLast ++ [row.refresh finding pass.now]
        | none, some row =>
          if row.lastSeenAt < pass.now then
            view.rows.dropLast ++
              [{ row with
                resolvedAt := some pass.now
                resolutionDetail := clipAlertText pass.detail }]
          else view.rows
        | none, none => view.rows }

variable (store : AlertStore)

section

variable (check other : AlertCheck) (row : OperatorAlert)

theorem view_putLast :
    (store.putLast check row).view other = if other = check then
      ⟨store.checks.get? check, (store.rows check).dropLast ++ [row]⟩ else store.view other := by
  by_cases hsame : other = check
  · subst hsame
    simp [view, putLast, rows]
  · simp [view, putLast, rows, Dict.get?_set_ne hsame, hsame]

theorem view_append :
    (store.append check row).view other = if other = check then
      ⟨store.checks.get? check, store.rows check ++ [row]⟩ else store.view other := by
  by_cases hsame : other = check
  · subst hsame
    simp [view, append, rows]
  · simp [view, append, rows, Dict.get?_set_ne hsame, hsame]

end

/-- One turn of the loop changes its own check, by its own evidence. -/
theorem view_observe (pass : Pass) (applied : AlertApplication × AlertStore)
    (check other : AlertCheck) :
    (observe pass applied check).2.view other =
      if other = check then observeCheck pass check (applied.2.view check)
      else applied.2.view other := by
  obtain ⟨-, store⟩ := applied
  by_cases hstale : stale (store.checks.get? check) pass.now (pass.positive check).isSome = true
  · have hsame : observeCheck pass check (store.view check) = store.view check := by
      simp [observeCheck, view, hstale]
    rw [observe, if_pos hstale, hsame]
    split
    next heq => rw [heq]
    · rfl
  · have hmark : ∀ mark, ({ store with checks := store.checks.set check mark }).view other =
        if other = check then ⟨some mark, store.rows check⟩ else store.view other := by
      by_cases hsame : other = check
      · subst hsame
        simp [view, rows]
      · simp [view, rows, Dict.get?_set_ne hsame, hsame]
    have hopen : (store.view check).openRow = store.openRow check := rfl
    have hrows : (store.view check).rows = store.rows check := rfl
    have hprevious : (store.view check).mark = store.checks.get? check := rfl
    have hkept : ∀ checks, openRow ⟨store.history, checks⟩ check =
        store.openRow check := fun _ => rfl
    unfold observe observeCheck
    dsimp only
    rw [if_neg hstale, hprevious, if_neg hstale, hopen, hrows, hkept]
    cases pass.positive check with
    | none =>
      cases store.openRow check with
      | none => exact hmark _
      | some =>
        dsimp only
        split
        · rw [view_putLast, hmark]
          split
          · simp [rows]
          · rfl
        · exact hmark _
    | some =>
      cases store.openRow check with
      | none =>
        rw [view_append, hmark]
        split
        · simp [rows]
        · rfl
      | some =>
        rw [view_putLast, hmark]
        split
        · simp [rows]
        · rfl

theorem mem_observationKeys {findings : List SupervisionFinding} {evaluated : List AlertCheck}
    {check : AlertCheck} : check ∈ observationKeys findings evaluated ↔
      check ∈ evaluated ∨ ∃ finding ∈ findings, finding.check = check := by
  simp [observationKeys]

theorem view_foldl_observe (pass : Pass) (check : AlertCheck) {keys : List AlertCheck}
    (hkeys : keys.Nodup) (applied : AlertApplication × AlertStore) :
    (keys.foldl (observe pass) applied).2.view check =
      if check ∈ keys then observeCheck pass check (applied.2.view check)
      else applied.2.view check := by
  induction keys generalizing applied with
  | nil => rfl
  | cons key _ ih =>
    obtain ⟨hfresh, hrest⟩ := nodup_cons.mp hkeys
    rw [foldl_cons, ih hrest]
    by_cases hsame : check = key
    · subst hsame
      rw [if_neg hfresh, if_pos mem_cons_self, view_observe, if_pos rfl]
    · rw [view_observe, if_neg hsame]
      simp [hsame]

/-- A pass acts on each check it names, and on no other. -/
theorem view_applyObservations (pass : Pass) (check : AlertCheck) :
    (store.applyObservations pass).2.view check =
      if check ∈ observationKeys pass.findings pass.evaluated then
        observeCheck pass check (store.view check)
      else store.view check :=
  view_foldl_observe pass check ((perm_insertionSort _ _).nodup_iff.mpr (nodup_dedup _)) _

/-! ## Only the last row may be open -/

/-- Every row before the last is resolved. -/
def OnlyLastOpen (rows : List OperatorAlert) : Prop :=
  ∀ row ∈ rows.dropLast, row.isOpen = false

variable {row : OperatorAlert}

section

variable {view : CheckView} {pass : Pass} {check : AlertCheck}

theorem OnlyLastOpen.openRow_eq_some (h : OnlyLastOpen view.rows) :
    view.openRow = some row ↔ view.rows.getLast? = some row ∧ row.isOpen = true := by
  unfold CheckView.openRow
  rcases eq_nil_or_concat' view.rows with hrows | ⟨front, last, hrows⟩
  · simp [hrows]
  · rw [hrows] at h ⊢
    unfold OnlyLastOpen at h
    rw [dropLast_concat] at h
    rw [reverse_append, reverse_singleton, singleton_append, find?_cons, getLast?_concat]
    cases hlast : last.isOpen with
    | true =>
      simp only [some.injEq]
      constructor
      · intro heq
        exact ⟨heq, heq ▸ hlast⟩
      · exact fun heq => heq.1
    | false =>
      have hnone : front.reverse.find? isOpen = none := by
        rw [find?_eq_none]
        intro other hother
        simpa using h other (mem_reverse.mp hother)
      rw [hnone]
      constructor
      · intro heq
        cases heq
      · intro heq
        cases heq.1
        exact absurd heq.2 (by simp [hlast])

theorem resolved_of_openRow (hnone : view.openRow = none) :
    ∀ row ∈ view.rows, row.isOpen = false := by
  intro row hrow
  simpa using find?_eq_none.mp hnone row (mem_reverse.mpr hrow)

/-- A named check keeps its rows, gains one, or has another last one. -/
inductive RowsStep (pass : Pass) (check : AlertCheck) (rows : List OperatorAlert) :
    List OperatorAlert → Prop where
  | same : RowsStep pass check rows rows
  | opened (finding : SupervisionFinding) (h : ∀ row ∈ rows, row.isOpen = false) :
      RowsStep pass check rows (rows ++ [newAlert finding pass.now (pass.ids check)])
  | refreshed (finding : SupervisionFinding) (row : OperatorAlert)
      (hlast : rows.getLast? = some row) (hopen : row.isOpen = true) :
      RowsStep pass check rows (rows.dropLast ++ [row.refresh finding pass.now])
  | resolved (row : OperatorAlert) (hlast : rows.getLast? = some row) (hopen : row.isOpen = true) :
      RowsStep pass check rows (rows.dropLast ++
        [{ row with
          resolvedAt := some pass.now
          resolutionDetail := clipAlertText pass.detail }])

theorem observeCheck_rows (pass : Pass) (check : AlertCheck) (h : OnlyLastOpen view.rows) :
    RowsStep pass check view.rows (observeCheck pass check view).rows := by
  unfold observeCheck
  dsimp only
  split
  · exact .same
  · cases pass.positive check with
    | none =>
      cases hopen : view.openRow with
      | none => exact .same
      | some row =>
        obtain ⟨hlast, hrow⟩ := h.openRow_eq_some.mp hopen
        dsimp only
        split
        · exact .resolved row hlast hrow
        · exact .same
    | some finding =>
      cases hopen : view.openRow with
      | none => exact .opened finding (resolved_of_openRow hopen)
      | some row =>
        obtain ⟨hlast, hrow⟩ := h.openRow_eq_some.mp hopen
        exact .refreshed finding row hlast hrow

variable {rows rows' : List OperatorAlert}

theorem RowsStep.onlyLastOpen (hstep : RowsStep pass check rows rows') (h : OnlyLastOpen rows) :
    OnlyLastOpen rows' := by
  unfold OnlyLastOpen
  cases hstep with
  | same => exact h
  | opened | refreshed | resolved => rwa [dropLast_concat]

theorem getElem?_replaceLast (hlast : rows.getLast? = some row) (new : OperatorAlert)
    (index : Nat) :
    (rows.dropLast ++ [new])[index]? =
      if index = rows.length - 1 then some new else rows[index]? := by
  obtain ⟨front, rfl⟩ := getLast?_eq_some_iff.mp hlast
  rw [dropLast_concat, length_append, length_singleton, Nat.add_sub_cancel]
  rcases lt_trichotomy index front.length with hlt | heq | hgt
  · rw [getElem?_append_left hlt, getElem?_append_left hlt, if_neg hlt.ne]
  · subst heq
    simp
  · rw [if_neg hgt.ne', getElem?_eq_none (by simp; omega), getElem?_eq_none (by simp; omega)]

theorem RowsStep.resolved_stays (hstep : RowsStep pass check rows rows') {index : Nat}
    (hrow : rows[index]? = some row) (hresolved : row.isOpen = false) :
    rows'[index]? = some row := by
  -- an open last row is another row
  have hother : ∀ last, rows.getLast? = some last → last.isOpen = true →
      index ≠ rows.length - 1 := by
    rintro last hlast hopen rfl
    rw [getLast?_eq_getElem?, hrow] at hlast
    rw [some.inj hlast, hopen] at hresolved
    cases hresolved
  cases hstep with
  | same => exact hrow
  | opened =>
    obtain ⟨hindex, -⟩ := List.getElem?_eq_some_iff.mp hrow
    rw [getElem?_append_left hindex, hrow]
  | refreshed _ last hlast hopen | resolved last hlast hopen =>
    rw [getElem?_replaceLast hlast, if_neg (hother last hlast hopen), hrow]

end

/-! ## The greatest observation -/

/-- What a pass observed of a check: a failure if a finding names it, its absence if it was only
evaluated. Later is greater; at one instant, a failure. -/
def Pass.observation (pass : Pass) (check : AlertCheck) : Option (Time ×ₗ Bool) :=
  if ∃ finding ∈ pass.findings, finding.check = check then some (toLex (pass.now, true))
  else if check ∈ pass.evaluated then some (toLex (pass.now, false))
  else none

def observed (passes : List Pass) (check : AlertCheck) : List (Time ×ₗ Bool) :=
  passes.filterMap (fun pass => pass.observation check)

theorem isSome_positive (pass : Pass) (check : AlertCheck) :
    (pass.positive check).isSome = true ↔ ∃ finding ∈ pass.findings, finding.check = check := by
  simp [Pass.positive]

theorem observation_eq (pass : Pass) (check : AlertCheck) :
    pass.observation check =
      if check ∈ observationKeys pass.findings pass.evaluated then
        some (toLex (pass.now, (pass.positive check).isSome))
      else none := by
  unfold Pass.observation
  by_cases hfailed : ∃ finding ∈ pass.findings, finding.check = check
  · rw [if_pos hfailed, if_pos (mem_observationKeys.mpr (.inr hfailed)),
      (isSome_positive pass check).mpr hfailed]
  · have hnone : (pass.positive check).isSome = false := by
      rw [Bool.eq_false_iff]
      exact fun h => hfailed ((isSome_positive pass check).mp h)
    rw [if_neg hfailed, hnone]
    by_cases hevaluated : check ∈ pass.evaluated
    · rw [if_pos hevaluated, if_pos (mem_observationKeys.mpr (.inl hevaluated))]
    · rw [if_neg hevaluated, if_neg (fun h => (mem_observationKeys.mp h).elim hevaluated hfailed)]

/-- The watermark refuses what is not above it. -/
theorem stale_eq_true_iff {previous : Option (Time × Bool)} {now : Time} {failed : Bool} :
    stale previous now failed = true ↔
      ∃ mark, previous = some mark ∧ toLex (now, failed) ≤ toLex mark := by
  cases previous with
  | none => simp [stale]
  | some mark =>
    simp only [stale, any_some, some.injEq, exists_eq_left', Prod.Lex.le_iff,
      ofLex_toLex, decide_eq_true_eq]
    obtain ⟨-, flag⟩ := mark
    cases flag <;> cases failed <;> simp [eq_comm]

/-- A check after the observations `seen`: the watermark is the greatest of them, only the last row
may be open, is so if that one is a failure, and was last seen no later. -/
structure CheckView.Follows (view : CheckView) (seen : List (Time ×ₗ Bool)) : Prop where
  unseen : view.mark = none → seen = []
  greatest : ∀ mark, view.mark = some mark → IsGreatest {o | o ∈ seen} (toLex mark)
  closed : OnlyLastOpen view.rows
  opens : (∃ row, view.rows.getLast? = some row ∧ row.isOpen = true) ↔
    ∃ time, view.mark = some (time, true)
  lastSeen : ∀ row time failed, view.rows.getLast? = some row → row.isOpen = true →
    view.mark = some (time, failed) → row.lastSeenAt ≤ time

section

variable {view : CheckView} {seen : List (Time ×ₗ Bool)} {pass : Pass} {check : AlertCheck}

theorem follows_empty : CheckView.Follows ⟨none, []⟩ [] where
  unseen _ := rfl
  greatest := by simp
  closed := by simp [OnlyLastOpen]
  opens := by simp
  lastSeen := by simp

/-- The new watermark is the greatest of the observations with the new one. -/
theorem CheckView.Follows.raise (h : view.Follows seen) {now : Time} {failed : Bool}
    (hfresh : ¬ stale view.mark now failed = true) :
    IsGreatest {o | o ∈ seen ++ [toLex (now, failed)]} (toLex (now, failed)) := by
  refine ⟨by simp, ?_⟩
  intro other hother
  rcases mem_append.mp hother with hseen | hnew
  · cases hmark : view.mark with
    | none =>
      rw [h.unseen hmark] at hseen
      cases hseen
    | some mark =>
      have habove : toLex mark < toLex (now, failed) := by
        rw [← not_le]
        exact fun hle => hfresh (stale_eq_true_iff.mpr ⟨mark, hmark, hle⟩)
      exact ((h.greatest mark hmark).2 hseen).trans habove.le
  · rw [mem_singleton.mp hnew]

/-- A pass that names a check keeps its rows true to its observations. -/
theorem CheckView.Follows.observe (h : view.Follows seen) :
    (observeCheck pass check view).Follows
      (seen ++ [toLex (pass.now, (pass.positive check).isSome)]) := by
  unfold observeCheck
  dsimp only
  split
  next hstale =>
    obtain ⟨mark, hmark, hle⟩ := stale_eq_true_iff.mp hstale
    refine ⟨?_, ?_, h.closed, h.opens, h.lastSeen⟩
    · intro hnone
      rw [hmark] at hnone
      cases hnone
    · intro mark' hmark'
      obtain rfl : mark = mark' := by
        rw [hmark] at hmark'
        exact some.inj hmark'
      obtain ⟨hmem, hupper⟩ := h.greatest mark hmark
      refine ⟨mem_append_left _ hmem, fun other hother => ?_⟩
      rcases mem_append.mp hother with hseen | hnew
      · exact hupper hseen
      · rw [mem_singleton.mp hnew]
        exact hle
  next hfresh =>
    have hgreatest := h.raise hfresh
    -- the last row was last seen before a later observation of the check
    have hearlier : ∀ row, view.openRow = some row → (pass.positive check).isSome = false →
        row.lastSeenAt < pass.now := by
      intro row hrow hclear
      obtain ⟨hlast, hopen⟩ := h.closed.openRow_eq_some.mp hrow
      obtain ⟨time, hmark⟩ := h.opens.mp ⟨row, hlast, hopen⟩
      have hbefore : time < pass.now := by
        rw [← not_le]
        refine fun hle => hfresh (stale_eq_true_iff.mpr ⟨_, hmark, ?_⟩)
        rw [Prod.Lex.le_iff, hclear]
        rcases lt_or_eq_of_le hle with hlt | heq
        · exact .inl hlt
        · exact .inr ⟨heq, Bool.false_le _⟩
      exact lt_of_le_of_lt (h.lastSeen row time true hlast hopen hmark) hbefore
    have hkept : ∀ (rows : List OperatorAlert) (failed : Bool),
        (pass.positive check).isSome = failed →
        (∀ row ∈ rows.dropLast, row.isOpen = false) →
        ((∃ row, rows.getLast? = some row ∧ row.isOpen = true) ↔ failed = true) →
        (∀ row, rows.getLast? = some row → row.isOpen = true → row.lastSeenAt ≤ pass.now) →
        CheckView.Follows ⟨some (pass.now, failed), rows⟩ (seen ++ [toLex (pass.now, failed)]) := by
      intro rows failed hfailed hclosed hopens hseen
      rw [hfailed] at hgreatest
      refine ⟨by simp, ?_, hclosed, ?_, ?_⟩
      · intro mark hmark
        rw [← some.inj hmark]
        exact hgreatest
      · rw [hopens]
        simp [eq_comm]
      · intro row time failed' hlast hopen hmark
        cases hmark
        exact hseen row hlast hopen
    cases hfinding : pass.positive check with
    | none =>
      cases hopen : view.openRow with
      | none =>
        refine hkept _ false (by simp [hfinding]) h.closed ?_ ?_
        · refine iff_of_false (fun hex => ?_) (by simp)
          obtain ⟨row, hrow⟩ := hex
          rw [h.closed.openRow_eq_some.mpr hrow] at hopen
          cases hopen
        · intro row hlast hrow
          rw [h.closed.openRow_eq_some.mpr ⟨hlast, hrow⟩] at hopen
          cases hopen
      | some row =>
        dsimp only
        rw [if_pos (hearlier row hopen (by simp [hfinding]))]
        refine hkept _ false (by simp [hfinding]) ?_ ?_ ?_
        · rw [dropLast_concat]
          exact h.closed
        · simp [isOpen]
        · simp [isOpen]
    | some =>
      cases hopen : view.openRow with
      | none =>
        refine hkept _ true (by simp [hfinding]) ?_ ?_ ?_
        · rw [dropLast_concat]
          exact resolved_of_openRow hopen
        · simp [newAlert, isOpen]
        · simp [newAlert]
      | some =>
        have hrow := (h.closed.openRow_eq_some.mp hopen).2
        refine hkept _ true (by simp [hfinding]) ?_ ?_ ?_
        · rw [dropLast_concat]
          exact h.closed
        · simpa [refresh, isOpen] using hrow
        · simp [refresh]

end

/-! ## Any number of passes, in any order -/

def storeAfter (passes : List Pass) : AlertStore :=
  passes.foldl (fun store pass => (store.applyObservations pass).2) {}

variable (passes : List Pass)

theorem storeAfter_append_singleton (pass : Pass) :
    storeAfter (passes ++ [pass]) = ((storeAfter passes).applyObservations pass).2 := by
  simp [storeAfter]

theorem view_storeAfter (check : AlertCheck) :
    ((storeAfter passes).view check).Follows (observed passes check) := by
  induction passes using List.reverseRecOn with
  | nil => exact follows_empty
  | append_singleton _ _ ih =>
    rw [storeAfter_append_singleton, view_applyObservations, observed, filterMap_append,
      filterMap_cons, observation_eq]
    split
    · exact ih.observe
    · simpa [observed] using ih

theorem resolved_stays_after (later : List Pass) {check : AlertCheck} {index : Nat}
    (hrow : ((storeAfter passes).rows check)[index]? = some row) (hresolved : row.isOpen = false) :
    ((storeAfter (passes ++ later)).rows check)[index]? = some row := by
  induction later using List.reverseRecOn with
  | nil => simpa using hrow
  | append_singleton later pass ih =>
    rw [← append_assoc, storeAfter_append_singleton]
    change (((storeAfter (passes ++ later)).applyObservations pass).2.view check).rows[index]? = _
    rw [view_applyObservations]
    split
    · have hstep := observeCheck_rows pass check (view_storeAfter (passes ++ later) check).closed
      exact hstep.resolved_stays ih hresolved
    · exact ih

def AlertStore.openChecks (store : AlertStore) : Set AlertCheck :=
  {check | ∃ row ∈ store.rows check, row.isOpen = true}

theorem mem_openChecks_iff (check : AlertCheck) : check ∈ (storeAfter passes).openChecks ↔
      ∃ greatest, IsGreatest {o | o ∈ observed passes check} greatest ∧
        (ofLex greatest).2 = true := by
  have hfollows := view_storeAfter passes check
  have hlast : check ∈ (storeAfter passes).openChecks ↔
      ∃ row, ((storeAfter passes).rows check).getLast? = some row ∧ row.isOpen = true := by
    constructor
    · rintro ⟨row, hrow, hopen⟩
      have hfound : (((storeAfter passes).view check).openRow).isSome = true := by
        rw [CheckView.openRow, find?_isSome]
        exact ⟨row, mem_reverse.mpr hrow, hopen⟩
      obtain ⟨last, hlast⟩ := isSome_iff_exists.mp hfound
      exact ⟨last, hfollows.closed.openRow_eq_some.mp hlast⟩
    · rintro ⟨row, hrow, hopen⟩
      exact ⟨row, mem_of_getLast? hrow, hopen⟩
  rw [hlast]
  refine hfollows.opens.trans ?_
  constructor
  · rintro ⟨time, hmark⟩
    exact ⟨_, hfollows.greatest _ hmark, rfl⟩
  · rintro ⟨greatest, hgreatest, hfailed⟩
    cases hmark : ((storeAfter passes).view check).mark with
    | none =>
      have hmem := hgreatest.1
      rw [hfollows.unseen hmark] at hmem
      cases hmem
    | some mark =>
      obtain rfl := (hfollows.greatest mark hmark).unique hgreatest
      exact ⟨mark.1, congrArg some (Prod.ext rfl hfailed)⟩

/-- After any passes, only an identity's last row may be open, exactly when the greatest observation
of the check is a failure. A pass leaves the checks it does not name alone, resolved rows never
change, and the passes in another order end with the same open identities. -/
theorem open_alerts_of_evidence (passes : List Pass) :
    (∀ check, ∀ row ∈ ((storeAfter passes).rows check).dropLast, row.isOpen = false) ∧
    (∀ check, check ∈ (storeAfter passes).openChecks ↔
      ∃ greatest, IsGreatest {o | o ∈ observed passes check} greatest ∧
        (ofLex greatest).2 = true) ∧
    (∀ pass check, pass.observation check = none →
      (storeAfter (passes ++ [pass])).rows check = (storeAfter passes).rows check) ∧
    (∀ later check (index : Nat) (row : OperatorAlert),
      ((storeAfter passes).rows check)[index]? = some row →
      row.isOpen = false → ((storeAfter (passes ++ later)).rows check)[index]? = some row) ∧
    (∀ reordered, passes.Perm reordered →
      (storeAfter reordered).openChecks = (storeAfter passes).openChecks) := by
  refine ⟨fun check => (view_storeAfter passes check).closed, mem_openChecks_iff passes, ?_,
    fun later check index row => resolved_stays_after passes later, ?_⟩
  · intro pass check hunnamed
    rw [observation_eq] at hunnamed
    have hkeys : check ∉ observationKeys pass.findings pass.evaluated := by
      intro hmem
      rw [if_pos hmem] at hunnamed
      cases hunnamed
    rw [storeAfter_append_singleton]
    change (((storeAfter passes).applyObservations pass).2.view check).rows = _
    rw [view_applyObservations, if_neg hkeys]
    rfl
  · intro reordered hperm
    ext check
    have hsame : {o | o ∈ observed reordered check} = {o | o ∈ observed passes check} := by
      ext o
      exact (hperm.filterMap _).symm.mem_iff
    rw [mem_openChecks_iff, mem_openChecks_iff, hsame]

end Thytrader.Alerts
