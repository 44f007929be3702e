import Thytrader.MarketData.WorkerState

/-!
# Worker reports never stall a target

Several workers report to one store, in any order: an attempt that started, a success or a
failure of an attempt, late, twice or never. `replay` is the store after such a history, a
raising call included. From every store so reached, a well-formed report passes the row's
validation (`WorkerCall.exists_perform_eq_ok`); every call that writes moves the row forward
(`Advances`); what settled an attempt instant stays settled (`settledAt_step`); and a report
of an older attempt changes nothing (`worker_transitions_total_monotone`).
-/

namespace Thytrader.MarketData

open Lib Option MarketDataWorkerState

variable {instant : Time} {states : WorkerStates}

/-! ## What passing validation means -/

@[simp] theorem refuseWhen_eq_ok {condition : Prop} [Decidable condition] {message : String} :
    refuseWhen condition message = .ok () ↔ ¬ condition := by
  unfold refuseWhen
  split
  next h => simp [h]
  next h => simp [h]

@[simp] theorem whenPresent_eq_ok {α : Type} {value : Option α} {check : α → Result Unit} :
    whenPresent value check = .ok () ↔ ∀ x ∈ value, check x = .ok () := by
  cases value with
  | none | some => simp [whenPresent]

theorem bind_unit_eq_ok {first second : Result Unit} :
    (first >>= fun _ => second) = .ok () ↔ first = .ok () ∧ second = .ok () := by
  cases first with
  | error | ok => simp [bind, Except.bind]

variable {state : WorkerStateFields} {attempt : MarketDataWorkerAttempt} {key : TargetKey}

theorem validate_eq_ok_iff :
    validateMarketDataWorkerState state = .ok () ↔
      (state.provider ≠ "" ∧ state.productId ≠ "") ∧
      (0 ≤ state.consecutiveFailures ∧ 0 ≤ state.datasetRevision) ∧
      requireOrderedTimestamps state = .ok () ∧ validateCoverage state = .ok () ∧
      validateHistoryFloor state = .ok () ∧ validateFailureLifecycle state = .ok () := by
  unfold validateMarketDataWorkerState requireNonemptyText requireNonnegativeInteger
  simp only [bind_unit_eq_ok, refuseWhen_eq_ok, not_lt]
  tauto

theorem ordered_eq_ok_iff :
    requireOrderedTimestamps state = .ok () ↔
      state.requestedStartsAt ≤ state.requestedEndsAt ∧ state.lastAttemptAt ≤ state.updatedAt ∧
      ∀ success ∈ state.lastSuccessAt, success ≤ state.lastAttemptAt := by
  unfold requireOrderedTimestamps
  simp only [bind_unit_eq_ok, refuseWhen_eq_ok, gt_iff_lt, not_lt, not_exists, not_and]

theorem floor_eq_ok_iff :
    validateHistoryFloor state = .ok () ↔
      ∀ floor ∈ state.historyFloorAt, state.coveredStartsAt = some floor := by
  unfold validateHistoryFloor
  simp only [refuseWhen_eq_ok, not_exists, not_and, not_not, ne_eq]
  constructor
  · intro h floor hfloor
    exact (h floor hfloor).symm
  · intro h floor hfloor
    exact (h floor hfloor).symm

/-- The failure facts, whatever the status asks of them. -/
structure FailureFacts (state : WorkerStateFields) : Prop where
  paired : state.failureCode.isSome = state.failureMessage.isSome
  code_ne : ∀ code ∈ state.failureCode, code ≠ ""
  message_ne : ∀ message ∈ state.failureMessage, message ≠ ""
  counted : state.consecutiveFailures = 0 ↔ state.failureCode = none

/-- Whatever the status, a valid row counts failures exactly when it names one. -/
theorem failureFacts_of_valid (h : validateFailureLifecycle state = .ok ()) :
    FailureFacts state := by
  unfold validateFailureLifecycle requireNonemptyText at h
  simp only [bind_unit_eq_ok, refuseWhen_eq_ok, whenPresent_eq_ok, ne_eq, not_not] at h
  obtain ⟨hpaired, hcode, hmessage, hstatus⟩ := h
  refine ⟨hpaired, hcode, hmessage, ?_⟩
  cases hs : state.status with
  | succeeded =>
    rw [hs] at hstatus
    simp only [refuseWhen_eq_ok, not_or, not_not] at hstatus
    obtain ⟨hzero, hnone, -⟩ := hstatus
    simp [hzero, not_isSome_iff_eq_none.mp hnone]
  | failed =>
    rw [hs] at hstatus
    simp only [bind_unit_eq_ok, refuseWhen_eq_ok, not_or, not_lt, not_not] at hstatus
    obtain ⟨⟨hone, hsome⟩, -⟩ := hstatus
    constructor
    · intro hzero
      omega
    · intro hnone
      rw [hnone] at hsome
      cases hsome
  | running =>
    rw [hs] at hstatus
    simp only [refuseWhen_eq_ok, not_not, isSome_eq_false_iff, isNone_iff_eq_none] at hstatus
    exact iff_of_eq hstatus

/-- A running row only needs its retained failure facts to agree. -/
theorem lifecycle_of_running (hstatus : state.status = .running) (hfacts : FailureFacts state) :
    validateFailureLifecycle state = .ok () := by
  unfold validateFailureLifecycle requireNonemptyText
  simp only [bind_unit_eq_ok, refuseWhen_eq_ok, whenPresent_eq_ok, ne_eq, not_not]
  refine ⟨hfacts.paired, hfacts.code_ne, hfacts.message_ne, ?_⟩
  rw [hstatus]
  simp only [refuseWhen_eq_ok, not_not, isSome_eq_false_iff, isNone_iff_eq_none]
  exact propext hfacts.counted

/-! ## Well-formed reports -/

/-- A named target and an ordered request range. -/
structure MarketDataWorkerAttempt.WellFormed (attempt : MarketDataWorkerAttempt) : Prop where
  provider_ne : attempt.provider ≠ ""
  product_ne : attempt.productId ≠ ""
  ordered : attempt.requestedStartsAt ≤ attempt.requestedEndsAt

/-- Exact complete coverage: whole candles of the timeframe, each received once, with a
canonical fingerprint and any floor at the coverage start. -/
structure MarketDataWorkerSuccess.WellFormed (success : MarketDataWorkerSuccess) : Prop where
  attempt : success.attempt.WellFormed
  nonempty : success.coveredStartsAt < success.coveredEndsAt
  counted : success.coveredEndsAt - success.coveredStartsAt =
    success.expectedCandleCount * success.attempt.timeframe.duration
  received : success.receivedCandleCount = success.expectedCandleCount
  gapless : success.gapCount = 0
  nothing_missing : success.missingIntervals = 0
  fingerprint : CanonicalFingerprint success.contentFingerprint
  floor : ∀ floor ∈ success.historyFloorAt, floor = success.coveredStartsAt

/-- A named failure with a retry time after the attempt. -/
structure MarketDataWorkerFailure.WellFormed (failure : MarketDataWorkerFailure) : Prop where
  attempt : failure.attempt.WellFormed
  code_ne : failure.code ≠ ""
  message_ne : failure.message ≠ ""
  retry : ∃ retry, failure.nextRetryAt = some retry ∧ failure.attempt.attemptedAt < retry

/-! ## The rows the reports write are valid -/

section

variable {prior : Option MarketDataWorkerState}

section

variable (state : MarketDataWorkerState)

/-- A row's checks, by name. -/
theorem MarketDataWorkerState.checks :
    (state.provider ≠ "" ∧ state.productId ≠ "") ∧
      (0 ≤ state.consecutiveFailures ∧ 0 ≤ state.datasetRevision) ∧
      requireOrderedTimestamps state.toWorkerStateFields = .ok () ∧
      validateCoverage state.toWorkerStateFields = .ok () ∧
      validateHistoryFloor state.toWorkerStateFields = .ok () ∧
      validateFailureLifecycle state.toWorkerStateFields = .ok () :=
  validate_eq_ok_iff.mp state.valid

theorem MarketDataWorkerState.failureFacts :
    FailureFacts state.toWorkerStateFields :=
  failureFacts_of_valid state.checks.2.2.2.2.2

theorem MarketDataWorkerState.lastSuccess_le :
    ∀ success ∈ state.lastSuccessAt, success ≤ state.lastAttemptAt :=
  (ordered_eq_ok_iff.mp state.checks.2.2.1).2.2

end

theorem retained_counters (prior : Option MarketDataWorkerState) :
    0 ≤ prior.elim 0 (·.consecutiveFailures) ∧ 0 ≤ prior.elim 0 (·.datasetRevision) := by
  cases prior with
  | none => simp
  | some state => exact state.checks.2.1

variable {fields : WorkerStateFields}

/-- Coverage kept from an earlier row of the same target stays valid. -/
theorem coverage_retained (htimeframe : ∀ state ∈ prior, state.timeframe = fields.timeframe)
    (hstarts : fields.coveredStartsAt = prior.bind (·.coveredStartsAt))
    (hends : fields.coveredEndsAt = prior.bind (·.coveredEndsAt))
    (hexpected : fields.expectedCandleCount = prior.bind (·.expectedCandleCount))
    (hreceived : fields.receivedCandleCount = prior.bind (·.receivedCandleCount))
    (hgaps : fields.gapCount = prior.bind (·.gapCount))
    (hmissing : fields.missingIntervals = prior.bind (·.missingIntervals))
    (hfingerprint : fields.contentFingerprint = prior.bind (·.contentFingerprint))
    (hcomplete : fields.complete = prior.elim false (·.complete))
    (hsuccess : fields.lastSuccessAt = prior.bind (·.lastSuccessAt)) :
    validateCoverage fields = .ok () := by
  cases prior with
  | none =>
    simp [validateCoverage, coveragePresent, hstarts, hends, hexpected, hreceived, hgaps, hmissing,
      hfingerprint, hcomplete, hsuccess, bind_unit_eq_ok]
  | some state =>
    -- The check reads these fields and the timeframe only.
    simp only [bind_some, elim_some] at *
    have hsame : validateCoverage fields = validateCoverage state.toWorkerStateFields := by
      unfold validateCoverage coveragePresent
      rw [hstarts, hends, hexpected, hreceived, hgaps, hmissing, hfingerprint, hcomplete, hsuccess,
        htimeframe state rfl]
    rw [hsame]
    exact state.checks.2.2.2.1

/-- A floor kept together with its island start stays at it. -/
theorem floor_retained (hstarts : fields.coveredStartsAt = prior.bind (·.coveredStartsAt))
    (hfloor : fields.historyFloorAt = prior.bind (·.historyFloorAt)) :
    validateHistoryFloor fields = .ok () := by
  rw [floor_eq_ok_iff, hstarts, hfloor]
  cases prior with
  | none => simp
  | some state => exact floor_eq_ok_iff.mp state.checks.2.2.2.2.1

theorem lastSuccess_retained (hlater : ∀ state ∈ prior, state.lastAttemptAt ≤ instant) :
    ∀ success ∈ prior.bind (·.lastSuccessAt), success ≤ instant := by
  cases prior with
  | none => simp
  | some state =>
    intro success hsuccess
    exact (state.lastSuccess_le success hsuccess).trans (hlater state rfl)

theorem attemptFields_valid (hwell : attempt.WellFormed)
    (htimeframe : ∀ state ∈ prior, state.timeframe = attempt.timeframe)
    (hlater : ∀ state ∈ prior, state.lastAttemptAt ≤ attempt.attemptedAt) :
    validateMarketDataWorkerState (attemptFields attempt prior) = .ok () := by
  refine validate_eq_ok_iff.mpr ⟨⟨hwell.provider_ne, hwell.product_ne⟩, retained_counters prior,
    ordered_eq_ok_iff.mpr ⟨hwell.ordered, le_refl _, lastSuccess_retained hlater⟩,
    coverage_retained htimeframe rfl rfl rfl rfl rfl rfl rfl rfl rfl, floor_retained rfl rfl, ?_⟩
  refine lifecycle_of_running rfl ?_
  cases prior with
  | none => exact ⟨rfl, by simp [attemptFields], by simp [attemptFields], by simp [attemptFields]⟩
  | some state =>
    have hfacts := state.failureFacts
    exact ⟨hfacts.paired, hfacts.code_ne, hfacts.message_ne, hfacts.counted⟩

variable {success : MarketDataWorkerSuccess}

theorem successFields_coverage (hwell : success.WellFormed) :
    validateCoverage (successFields success prior) = .ok () := by
  have hduration := CandleInterval.duration_pos success.attempt.timeframe
  have hlength := hwell.counted
  have hone : 1 ≤ success.expectedCandleCount := by
    have hpos : 0 < success.expectedCandleCount * success.attempt.timeframe.duration := by
      rw [← hlength]
      exact sub_pos.mpr hwell.nonempty
    exact (mul_pos_iff_of_pos_right hduration).mp hpos
  have hmod : (success.expectedCandleCount * success.attempt.timeframe.duration).fmod
      success.attempt.timeframe.duration = 0 := Int.mul_fmod_left ..
  have hdiv : (success.expectedCandleCount * success.attempt.timeframe.duration).fdiv
      success.attempt.timeframe.duration = success.expectedCandleCount :=
    Int.mul_fdiv_cancel _ hduration.ne'
  unfold validateCoverage coveragePresent successFields requireOptionalNonnegativeInteger
    requireNonnegativeInteger requireContentFingerprint
  simp only [bind_unit_eq_ok, refuseWhen_eq_ok, whenPresent_eq_ok, isSome_some, List.any_cons,
    List.all_cons, List.any_nil, List.all_nil, id, Bool.true_or, Bool.and_true, not_true_eq_false,
    and_false, not_false_eq_true, if_false, mem_some_iff, hlength, hmod, hdiv,
    hwell.received, hwell.gapless, hwell.nothing_missing]
  refine ⟨trivial, by simp, ?_, ?_, by simp, by simp, ?_⟩
  · intro count hcount
    omega
  · intro count hcount
    omega
  · refine ⟨not_le.mpr hwell.nonempty, by simp, by simp, ?_, not_not.mpr hwell.fingerprint⟩
    simp only [reduceCtorEq, false_or, ne_eq, not_true_eq_false, or_false, not_exists, not_and,
      not_lt]
    omega

theorem successFields_valid (hwell : success.WellFormed) :
    validateMarketDataWorkerState (successFields success prior) = .ok () := by
  refine validate_eq_ok_iff.mpr ⟨⟨hwell.attempt.provider_ne, hwell.attempt.product_ne⟩,
    ⟨le_refl _, ?_⟩, ordered_eq_ok_iff.mpr ⟨hwell.attempt.ordered, le_refl _, by simp [successFields]⟩,
    successFields_coverage hwell, ?_, ?_⟩
  · show (0 : Int) ≤ prior.elim 0 (·.datasetRevision) + success.advancesRevision.toInt
    have hrevision := (retained_counters prior).2
    cases success.advancesRevision with
    | false => simpa using hrevision
    | true => simp only [Bool.toInt_true]; omega
  · rw [floor_eq_ok_iff]
    intro floor hfloor
    have hfloor : floor ∈ resolveHistoryFloor success (prior.bind (·.historyFloorAt)) := hfloor
    unfold resolveHistoryFloor at hfloor
    split at hfloor
    next explicit hexplicit =>
      obtain rfl : explicit = floor := by simpa using hfloor
      rw [hwell.floor explicit hexplicit]
      rfl
    · obtain ⟨-, hstart⟩ := mem_filter_iff.mp hfloor
      rw [of_decide_eq_true hstart]
      rfl
  · simp [validateFailureLifecycle, successFields, bind_unit_eq_ok]

theorem failureFields_valid {failure : MarketDataWorkerFailure} (hwell : failure.WellFormed)
    (htimeframe : ∀ state ∈ prior, state.timeframe = failure.attempt.timeframe)
    (hlater : ∀ state ∈ prior, state.lastAttemptAt ≤ failure.attempt.attemptedAt) :
    validateMarketDataWorkerState (failureFields failure prior) = .ok () := by
  obtain ⟨hfailures, hrevision⟩ := retained_counters prior
  refine validate_eq_ok_iff.mpr ⟨⟨hwell.attempt.provider_ne, hwell.attempt.product_ne⟩,
    ⟨Int.add_nonneg hfailures (by decide), hrevision⟩,
    ordered_eq_ok_iff.mpr ⟨hwell.attempt.ordered, le_refl _, lastSuccess_retained hlater⟩,
    coverage_retained htimeframe rfl rfl rfl rfl rfl rfl rfl rfl rfl, floor_retained rfl rfl, ?_⟩
  obtain ⟨retry, hretry, hafter⟩ := hwell.retry
  simp [validateFailureLifecycle, requireNonemptyText, failureFields, bind_unit_eq_ok, hwell.code_ne,
    hwell.message_ne, hretry, hafter]
  omega

end

/-! ## Calls and histories -/

/-- One report of a worker. -/
inductive WorkerCall where
  | attempt (attempt : MarketDataWorkerAttempt)
  | success (success : MarketDataWorkerSuccess)
  | failure (failure : MarketDataWorkerFailure)

namespace WorkerCall

def about : WorkerCall → MarketDataWorkerAttempt
  | .attempt started => started
  | .success reported => reported.attempt
  | .failure reported => reported.attempt

def isReport : WorkerCall → Bool
  | .attempt _ => false
  | .success _ => true
  | .failure _ => true

/-- The arguments a worker may bring. -/
def WellFormed : WorkerCall → Prop
  | .attempt started => started.WellFormed
  | .success reported => reported.WellFormed
  | .failure reported => reported.WellFormed

/-- One store call, without its answer. -/
def perform (states : WorkerStates) : WorkerCall → Result WorkerStates
  | .attempt started => do
    let (_, states) ← recordAttempt states started
    return states
  | .success reported => recordSuccess states reported
  | .failure reported => recordFailure states reported

/-- The store after a call that may have raised. -/
def next (states : WorkerStates) (call : WorkerCall) : WorkerStates :=
  match call.perform states with
  | .ok states => states
  | .error _ => states

/-- What a call writes over an earlier row, if it writes. -/
def fields (prior : Option MarketDataWorkerState) : WorkerCall → WorkerStateFields
  | .attempt started => attemptFields started prior
  | .success reported => successFields reported prior
  | .failure reported => failureFields reported prior

def ignored (prior : Option MarketDataWorkerState) : WorkerCall → Bool
  | .attempt started => attemptStale started prior
  | .success reported => prior.any (successStale reported)
  | .failure reported => prior.any (reportStale reported.attempt)

theorem perform_eq (states : WorkerStates) (call : WorkerCall) :
    call.perform states =
      if call.ignored (states.get? call.about.key) then .ok states
      else assign states call.about.key (call.fields (states.get? call.about.key)) := by
  cases call with
  | attempt started =>
    show (recordAttempt states started >>= fun answer => pure answer.2) =
      if attemptStale started (states.get? started.key) then .ok states
      else assign states started.key (attemptFields started (states.get? started.key))
    unfold recordAttempt
    by_cases hstale : attemptStale started (states.get? started.key) = true
    · rw [if_pos hstale, if_pos hstale]
      rfl
    · rw [if_neg hstale, if_neg hstale]
      cases assign states started.key (attemptFields started (states.get? started.key)) with
      | error | ok => rfl
  | success | failure => rfl

end WorkerCall

def replay (history : List WorkerCall) : WorkerStates :=
  history.foldl WorkerCall.next Dict.empty

variable (history : List WorkerCall)

theorem replay_concat (call : WorkerCall) :
    replay (history ++ [call]) = call.next (replay history) := by
  simp [replay]

/-! ## One call -/

variable {fields : WorkerStateFields}

theorem MarketDataWorkerState.new_of_valid (h : validateMarketDataWorkerState fields = .ok ()) :
    new fields = .ok ⟨fields, h⟩ := by
  unfold new
  split
  next failure hfailed => cases (h.symm.trans hfailed)
  · rfl

variable {state : MarketDataWorkerState}

theorem MarketDataWorkerState.new_eq_ok
    (h : new fields = .ok state) : state.toWorkerStateFields = fields := by
  unfold new at h
  split at h
  · cases h
  · exact (congrArg toWorkerStateFields (Except.ok.inj h)).symm

/-- What a call that is not ignored knows of the row it replaces. -/
structure Supersedes (call : WorkerCall) (prior : MarketDataWorkerState) : Prop where
  later : prior.lastAttemptAt ≤ call.about.attemptedAt
  unsettled : prior.lastAttemptAt = call.about.attemptedAt →
    call.isReport = true ∧ prior.status = .running

/-- What a call writes moves the row it replaces forward. -/
structure Advances (call : WorkerCall) (prior : Option MarketDataWorkerState)
    (state : MarketDataWorkerState) : Prop where
  key : state.key = call.about.key
  instant : state.lastAttemptAt = call.about.attemptedAt
  outcome : call.isReport = true → state.status ≠ .running
  supersedes : ∀ earlier ∈ prior, Supersedes call earlier
  revision : ∀ earlier ∈ prior, earlier.datasetRevision ≤ state.datasetRevision
  coverage : ∀ earlier ∈ prior, ∀ covered ∈ earlier.coveredEndsAt,
    ∃ extended ∈ state.coveredEndsAt, covered ≤ extended

variable {prior : MarketDataWorkerState}

theorem reportStale_eq_false (h : ¬ reportStale attempt prior = true) :
    prior.lastAttemptAt ≤ attempt.attemptedAt ∧
      (prior.lastAttemptAt = attempt.attemptedAt → prior.status = .running) := by
  unfold reportStale at h
  simp only [decide_eq_true_eq, not_or, not_and, not_lt, not_not] at h
  exact ⟨h.1, fun hsame => h.2.1 hsame.symm⟩

variable {call : WorkerCall}

theorem supersedes_of_not_ignored (h : ¬ call.ignored (some prior) = true) :
    Supersedes call prior := by
  cases call with
  | attempt started =>
    have hstale : ¬ attemptStale started (some prior) = true := h
    simp only [attemptStale, decide_eq_true_eq, not_or, not_le] at hstale
    exact ⟨hstale.1.le, fun hsame => absurd hsame hstale.1.ne⟩
  | success reported =>
    have hstale : ¬ (reportStale reported.attempt prior ||
      prior.coveredEndsAt.any (reported.coveredEndsAt < ·)) = true := h
    rw [Bool.or_eq_true, not_or] at hstale
    obtain ⟨hlater, hrunning⟩ := reportStale_eq_false hstale.1
    exact ⟨hlater, fun hsame => ⟨rfl, hrunning hsame⟩⟩
  | failure reported =>
    obtain ⟨hlater, hrunning⟩ := reportStale_eq_false (h : ¬ reportStale reported.attempt prior = true)
    exact ⟨hlater, fun hsame => ⟨rfl, hrunning hsame⟩⟩

/-- Any row a call writes without being ignored is an advance. -/
theorem advances_of_not_ignored {prior : Option MarketDataWorkerState}
    (h : ¬ call.ignored prior = true)
    (hfields : state.toWorkerStateFields = call.fields prior) : Advances call prior state := by
  have hsupersedes : ∀ earlier ∈ prior, Supersedes call earlier := by
    intro earlier hearlier
    obtain rfl := mem_def.mp hearlier
    exact supersedes_of_not_ignored h
  cases call with
  | attempt | failure =>
    refine ⟨by rw [hfields]; rfl, by rw [hfields]; rfl, by rw [hfields]; exact nofun,
      hsupersedes, ?_, ?_⟩
    · intro earlier hearlier
      obtain rfl := mem_def.mp hearlier
      rw [hfields]
      exact le_refl _
    · intro earlier hearlier covered hcovered
      obtain rfl := mem_def.mp hearlier
      rw [hfields]
      exact ⟨covered, hcovered, le_refl _⟩
  | success reported =>
    refine ⟨by rw [hfields]; rfl, by rw [hfields]; rfl, fun _ => by rw [hfields]; exact nofun,
      hsupersedes, ?_, ?_⟩
    · intro earlier hearlier
      obtain rfl := mem_def.mp hearlier
      rw [hfields]
      show earlier.datasetRevision ≤ earlier.datasetRevision + reported.advancesRevision.toInt
      cases reported.advancesRevision with
      | false | true => simp
    · intro earlier hearlier covered hcovered
      obtain rfl := mem_def.mp hearlier
      -- Coverage that would shrink was ignored.
      have hstale : ¬ (reportStale reported.attempt earlier ||
        earlier.coveredEndsAt.any (reported.coveredEndsAt < ·)) = true := h
      rw [Bool.or_eq_true, not_or, mem_def.mp hcovered] at hstale
      have hextends : covered ≤ reported.coveredEndsAt := by simpa using hstale.2
      exact ⟨reported.coveredEndsAt, by rw [hfields]; rfl, hextends⟩

/-- All a call can do: nothing, or one advance of its target's row. -/
theorem WorkerCall.next_cases (states : WorkerStates) (call : WorkerCall) :
    call.next states = states ∨
      ∃ state, call.next states = states.set call.about.key state ∧
        Advances call (states.get? call.about.key) state := by
  unfold WorkerCall.next
  rw [WorkerCall.perform_eq]
  by_cases hignored : call.ignored (states.get? call.about.key) = true
  · rw [if_pos hignored]
    exact .inl rfl
  · rw [if_neg hignored]
    unfold assign
    cases hnew : new (call.fields (states.get? call.about.key)) with
    | error => exact .inl rfl
    | ok state =>
      exact .inr ⟨state, rfl, advances_of_not_ignored hignored (new_eq_ok hnew)⟩

/-! ## Every row sits under its target -/

/-- Every row is stored under its own key. -/
def Keyed (states : WorkerStates) : Prop :=
  ∀ key state, states.get? key = some state → state.key = key

theorem keyed_next (hkeyed : Keyed states) (call : WorkerCall) : Keyed (call.next states) := by
  obtain hsame | ⟨state, hset, hadvance⟩ := call.next_cases states
  · rw [hsame]
    exact hkeyed
  · exact Dict.forall_set hset hadvance.key hkeyed

theorem replay_append_invariant (inv : WorkerStates → Prop)
    (hstep : ∀ states call, inv states → inv (WorkerCall.next states call))
    (history later : List WorkerCall) (hstart : inv (replay history)) :
    inv (replay (history ++ later)) := by
  unfold replay
  rw [List.foldl_append]
  show inv (later.foldl WorkerCall.next (replay history))
  generalize replay history = states at hstart
  induction later generalizing states with
  | nil => exact hstart
  | cons call _ ih => exact ih (call.next states) (hstep states call hstart)

theorem keyed_replay : Keyed (replay history) := by
  refine replay_append_invariant Keyed (fun _ call hkeyed => keyed_next hkeyed call) [] history ?_
  intro key state hstored
  exact absurd hstored (by simp [replay])

/-! ## Main result -/

theorem WorkerCall.exists_perform_eq_ok (hkeyed : Keyed states) (hwell : call.WellFormed) :
    ∃ next, call.perform states = .ok next := by
  rw [WorkerCall.perform_eq]
  by_cases hignored : call.ignored (states.get? call.about.key) = true
  · rw [if_pos hignored]
    exact ⟨states, rfl⟩
  · rw [if_neg hignored]
    have htimeframe : ∀ state ∈ states.get? call.about.key, state.timeframe = call.about.timeframe := by
      intro state hstate
      exact congrArg (fun key : TargetKey => key.2.2) (hkeyed _ _ hstate)
    have hlater : ∀ state ∈ states.get? call.about.key,
        state.lastAttemptAt ≤ call.about.attemptedAt := by
      intro state hstate
      rw [mem_def.mp hstate] at hignored
      exact (supersedes_of_not_ignored hignored).later
    have hvalid : validateMarketDataWorkerState (call.fields (states.get? call.about.key)) = .ok () := by
      cases call with
      | attempt => exact attemptFields_valid hwell htimeframe hlater
      | success => exact successFields_valid hwell
      | failure => exact failureFields_valid hwell htimeframe hlater
    unfold assign
    rw [new_of_valid hvalid]
    exact ⟨_, rfl⟩

/-- One row is at or past another: the three things that never decrease. -/
structure AtOrPast (before after : MarketDataWorkerState) : Prop where
  attempt : before.lastAttemptAt ≤ after.lastAttemptAt
  revision : before.datasetRevision ≤ after.datasetRevision
  coverage : ∀ covered ∈ before.coveredEndsAt, ∃ extended ∈ after.coveredEndsAt, covered ≤ extended

theorem atOrPast_next {before row : MarketDataWorkerState} (hrow : states.get? key = some row)
    (hpast : AtOrPast before row) (call : WorkerCall) :
    ∃ after, (call.next states).get? key = some after ∧ AtOrPast before after := by
  obtain hsame | ⟨state, hset, hadvance⟩ := call.next_cases states
  · rw [hsame]
    exact ⟨row, hrow, hpast⟩
  · rw [hset, Dict.get?_set]
    split
    next hkey =>
      rw [hkey] at hrow
      refine ⟨state, rfl, ?_, hpast.revision.trans (hadvance.revision row hrow), ?_⟩
      · rw [hadvance.instant]
        exact hpast.attempt.trans (hadvance.supersedes row hrow).later
      · intro covered hcovered
        obtain ⟨extended, hextended, hle⟩ := hpast.coverage covered hcovered
        obtain ⟨further, hfurther, hlonger⟩ := hadvance.coverage row hrow extended hextended
        exact ⟨further, hfurther, hle.trans hlonger⟩
    · exact ⟨row, hrow, hpast⟩

/-- A success or failure report of the attempt at an instant that changes the target's row. -/
def Settles (states : WorkerStates) (call : WorkerCall) (key : TargetKey) (instant : Time) : Prop :=
  call.isReport = true ∧ call.about.key = key ∧ call.about.attemptedAt = instant ∧
    (call.next states).get? key ≠ states.get? key

/-- The row is past an instant, or at it with an outcome. -/
def Settled (key : TargetKey) (instant : Time) (states : WorkerStates) : Prop :=
  ∃ row, states.get? key = some row ∧
    (instant < row.lastAttemptAt ∨ (row.lastAttemptAt = instant ∧ row.status ≠ .running))

theorem Settles.settled (h : Settles states call key instant) :
    Settled key instant (call.next states) := by
  obtain ⟨hreport, rfl, rfl, hchanged⟩ := h
  obtain hsame | ⟨state, hset, hadvance⟩ := call.next_cases states
  · exact absurd (by rw [hsame]) hchanged
  · refine ⟨state, by rw [hset, Dict.get?_set_self], .inr ⟨hadvance.instant, hadvance.outcome hreport⟩⟩

theorem settled_next (h : Settled key instant states) (call : WorkerCall) :
    Settled key instant (call.next states) := by
  obtain ⟨row, hrow, hpast⟩ := h
  obtain hsame | ⟨state, hset, hadvance⟩ := call.next_cases states
  · rw [hsame]
    exact ⟨row, hrow, hpast⟩
  · by_cases hkey : key = call.about.key
    · subst hkey
      have hsupersedes := hadvance.supersedes row hrow
      refine ⟨state, by rw [hset, Dict.get?_set_self], .inl ?_⟩
      rw [hadvance.instant]
      obtain hlt | ⟨rfl, hdone⟩ := hpast
      · exact lt_of_lt_of_le hlt hsupersedes.later
      · -- At the settled instant itself only a running row is superseded.
        refine lt_of_le_of_ne hsupersedes.later (fun hsame => ?_)
        exact hdone (hsupersedes.unsettled hsame).2
    · exact ⟨row, by rw [hset, Dict.get?_set_ne hkey, hrow], hpast⟩

theorem Settled.not_settles (h : Settled key instant states) (call : WorkerCall) :
    ¬ Settles states call key instant := by
  intro hsettles
  obtain ⟨hreport, rfl, rfl, hchanged⟩ := hsettles
  obtain ⟨row, hrow, hpast⟩ := h
  obtain hsame | ⟨state, hset, hadvance⟩ := call.next_cases states
  · exact absurd (by rw [hsame]) hchanged
  · have hsupersedes := hadvance.supersedes row hrow
    obtain hlt | ⟨hsame, hdone⟩ := hpast
    · exact absurd hsupersedes.later (not_le.mpr hlt)
    · exact hdone (hsupersedes.unsettled hsame).2

theorem WorkerCall.perform_of_older {latest : MarketDataWorkerState}
    (hlatest : states.get? call.about.key = some latest)
    (holder : call.about.attemptedAt < latest.lastAttemptAt) :
    call.perform states = .ok states := by
  rw [WorkerCall.perform_eq, hlatest]
  refine if_pos ?_
  by_contra hignored
  exact absurd (supersedes_of_not_ignored hignored).later (not_le.mpr holder)

/-- After every history of worker calls, raising ones included: a well-formed call is not rejected;
the recorded attempt, revision and coverage end of every target only grow; a settled attempt instant
is not settled again; and a call about an older attempt leaves the store as it is. -/
theorem worker_transitions_total_monotone (history : List WorkerCall) :
    (∀ call : WorkerCall, call.WellFormed → ∃ next, call.perform (replay history) = .ok next) ∧
    (∀ later key before, (replay history).get? key = some before →
      ∃ after, (replay (history ++ later)).get? key = some after ∧ AtOrPast before after) ∧
    (∀ call later again key instant, Settles (replay history) call key instant →
      ¬ Settles (replay (history ++ call :: later)) again key instant) ∧
    (∀ (call : WorkerCall) latest, (replay history).get? call.about.key = some latest →
      call.about.attemptedAt < latest.lastAttemptAt →
      call.perform (replay history) = .ok (replay history)) := by
  refine ⟨?_, ?_, ?_, ?_⟩
  · intro call hwell
    exact WorkerCall.exists_perform_eq_ok (keyed_replay history) hwell
  · intro later key before hbefore
    refine replay_append_invariant
      (fun states => ∃ after, states.get? key = some after ∧ AtOrPast before after) ?_ history later
      ⟨before, hbefore, le_refl _, le_refl _, fun covered hcovered => ⟨covered, hcovered, le_refl _⟩⟩
    intro states call hinv
    obtain ⟨row, hrow, hpast⟩ := hinv
    exact atOrPast_next hrow hpast call
  · intro call later again key instant hsettles
    have hsettled : Settled key instant (replay (history ++ [call])) := by
      rw [replay_concat]
      exact hsettles.settled
    have hlater := replay_append_invariant (Settled key instant)
      (fun _ next h => settled_next h next) (history ++ [call]) later hsettled
    rw [List.append_assoc] at hlater
    exact hlater.not_settles again
  · intro call latest hlatest holder
    exact WorkerCall.perform_of_older hlatest holder

end Thytrader.MarketData
