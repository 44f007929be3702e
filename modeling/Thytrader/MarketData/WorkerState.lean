import Mathlib.Data.String.Basic
import Thytrader.Lib.Dict
import Thytrader.MarketData.Candles

/-!
# Market-data worker state

`market_data/worker_state.py`: the row a supervised ingestion target keeps (its latest
attempt, its verified coverage, its failure facts), the lifecycle rules every row satisfies,
and the in-memory store the three worker reports go through.

Mirroring notes: `MarketDataWorkerState.__post_init__` validates, so a state is its fields together
with the fact that they passed (`MarketDataWorkerState.new` is the constructor). The type checks
(`_require_instance`, `_require_bool`, an `int` that is not a `bool`, a `datetime` in UTC) are the
types here. `a or b` on an optional instant is `Option.getD`. The methods await nothing, so each is
one function of the store; a raise leaves the store as it was.
-/

namespace Thytrader.MarketData

open Lib

/-! ## Records -/

inductive MarketDataWorkerStatus where
  | running
  | succeeded
  | failed
  deriving DecidableEq, Repr

inductive MarketDataMaintenanceKind where
  | initialBackfill
  | incremental
  | prefixBackfill
  deriving DecidableEq, Repr

structure MarketDataWorkerAttempt where
  provider : String
  productId : String
  timeframe : CandleInterval
  attemptedAt : Time
  requestedStartsAt : Time
  requestedEndsAt : Time
  maintenanceKind : MarketDataMaintenanceKind := .initialBackfill
  expectedEndsAt : Option Time := none
  nextAttemptAt : Option Time := none
  expectedConsecutiveFailures : Int := 0
  deriving DecidableEq, Repr

structure MarketDataWorkerSuccess where
  attempt : MarketDataWorkerAttempt
  coveredStartsAt : Time
  coveredEndsAt : Time
  expectedCandleCount : Int
  receivedCandleCount : Int
  gapCount : Int
  missingIntervals : Int
  contentFingerprint : String
  advancesRevision : Bool := true
  historyFloorAt : Option Time := none
  deriving DecidableEq, Repr

structure MarketDataWorkerFailure where
  attempt : MarketDataWorkerAttempt
  code : String
  message : String
  nextRetryAt : Option Time := none
  deriving DecidableEq, Repr

/-- The fields of a `MarketDataWorkerState`, before `__post_init__` has seen them. -/
structure WorkerStateFields where
  provider : String
  productId : String
  timeframe : CandleInterval
  status : MarketDataWorkerStatus
  lastAttemptAt : Time
  lastSuccessAt : Option Time
  requestedStartsAt : Time
  requestedEndsAt : Time
  coveredStartsAt : Option Time
  coveredEndsAt : Option Time
  expectedCandleCount : Option Int
  receivedCandleCount : Option Int
  gapCount : Option Int
  missingIntervals : Option Int
  complete : Bool
  contentFingerprint : Option String
  failureCode : Option String
  failureMessage : Option String
  consecutiveFailures : Int
  updatedAt : Time
  expectedEndsAt : Option Time := none
  nextRetryAt : Option Time := none
  datasetRevision : Int := 0
  maintenanceKind : MarketDataMaintenanceKind := .initialBackfill
  enabled : Bool := true
  historyFloorAt : Option Time := none
  deriving DecidableEq, Repr

/-! ## Validation -/

/-- Raise a `MarketDataWorkerError` (a `ValueError`) when the condition holds. -/
def refuseWhen (condition : Prop) [Decidable condition] (message : String) : Result Unit :=
  if condition then .error (.valueError message) else .ok ()

def requireNonemptyText (value fieldName : String) : Result Unit :=
  refuseWhen (value = "")
    ("Market-data worker state field '" ++ fieldName ++ "' must be a nonempty string.")

def requireNonnegativeInteger (value : Int) (fieldName : String) : Result Unit :=
  refuseWhen (value < 0)
    ("Market-data worker state field '" ++ fieldName ++ "' must be a non-negative integer.")

def whenPresent {α : Type} (value : Option α) (check : α → Result Unit) : Result Unit :=
  value.elim (.ok ()) check

def requireOptionalNonnegativeInteger (value : Option Int) (fieldName : String) : Result Unit :=
  whenPresent value (fun count => requireNonnegativeInteger count fieldName)

def requireOrderedTimestamps (state : WorkerStateFields) : Result Unit := do
  refuseWhen (state.requestedStartsAt > state.requestedEndsAt)
    "Market-data worker state has an inverted requested range."
  refuseWhen (state.updatedAt < state.lastAttemptAt)
    "Market-data worker state was updated before its last attempt."
  refuseWhen (∃ success ∈ state.lastSuccessAt, success > state.lastAttemptAt)
    "Market-data worker state records success after its last attempt."

def digestDigits : List Char := "0123456789abcdef".toList

/-- `_require_content_fingerprint`'s condition: `sha256:` and 64 lower-case digits. -/
def CanonicalFingerprint (value : String) : Prop :=
  value.toList.length = 71 ∧ startsWith value.toList "sha256:".toList = true ∧
    ∀ character ∈ value.toList.drop 7, character ∈ digestDigits

instance (value : String) : Decidable (CanonicalFingerprint value) :=
  inferInstanceAs (Decidable (_ ∧ _ ∧ _))

def requireContentFingerprint (value : String) : Result Unit :=
  refuseWhen (¬ CanonicalFingerprint value)
    "Market-data worker state has an invalid coverage fingerprint."

/-- Which of the seven coverage facts are present, in the source's order. -/
def coveragePresent (state : WorkerStateFields) : List Bool :=
  [state.coveredStartsAt.isSome, state.coveredEndsAt.isSome, state.expectedCandleCount.isSome,
    state.receivedCandleCount.isSome, state.gapCount.isSome, state.missingIntervals.isSome,
    state.contentFingerprint.isSome]

def validateCoverage (state : WorkerStateFields) : Result Unit := do
  let present := coveragePresent state
  refuseWhen (present.any id ∧ ¬ present.all id)
    "Market-data worker state has incomplete coverage evidence."
  if ¬ present.any id then
    refuseWhen (state.complete ∨ state.lastSuccessAt.isSome)
      "Market-data worker state claims success without coverage evidence."
  else
    refuseWhen (state.lastSuccessAt = none)
      "Market-data worker coverage evidence is missing its success instant."
    requireOptionalNonnegativeInteger state.expectedCandleCount "expected_candle_count"
    requireOptionalNonnegativeInteger state.receivedCandleCount "received_candle_count"
    requireOptionalNonnegativeInteger state.gapCount "gap_count"
    requireOptionalNonnegativeInteger state.missingIntervals "missing_intervals"
    match state.coveredStartsAt, state.coveredEndsAt with
    | some startsAt, some endsAt => do
      refuseWhen (startsAt ≥ endsAt)
        "Market-data worker state has an empty or inverted coverage range."
      let coverageDuration := endsAt - startsAt
      refuseWhen (coverageDuration.fmod state.timeframe.duration ≠ 0)
        "Market-data worker state has a coverage range misaligned to its timeframe."
      let coverageCount := coverageDuration.fdiv state.timeframe.duration
      refuseWhen (∃ expected ∈ state.expectedCandleCount, expected ≠ coverageCount)
        "Market-data worker state has a coverage count inconsistent with its range."
      refuseWhen (¬ state.complete ∨ state.expectedCandleCount = none ∨
          (∃ expected ∈ state.expectedCandleCount, expected < 1) ∨
          state.receivedCandleCount ≠ state.expectedCandleCount ∨
          state.gapCount ≠ some 0 ∨ state.missingIntervals ≠ some 0)
        "Market-data worker state has incomplete coverage facts."
      match state.contentFingerprint with
      | none => .error (.valueError "Market-data worker state has an invalid coverage fingerprint.")
      | some fingerprint => requireContentFingerprint fingerprint
    | _, _ => .error (.valueError "Market-data worker state has incomplete coverage timestamps.")

def validateHistoryFloor (state : WorkerStateFields) : Result Unit :=
  refuseWhen (∃ floor ∈ state.historyFloorAt, some floor ≠ state.coveredStartsAt)
    "Market-data worker state has a history floor away from its island start."

def validateFailureLifecycle (state : WorkerStateFields) : Result Unit := do
  let hasFailureCode := state.failureCode.isSome
  refuseWhen (hasFailureCode ≠ state.failureMessage.isSome)
    "Market-data worker state has incomplete failure diagnostics."
  whenPresent state.failureCode (fun code => requireNonemptyText code "failure_code")
  whenPresent state.failureMessage (fun message => requireNonemptyText message "failure_message")
  match state.status with
  | .succeeded =>
    refuseWhen (state.consecutiveFailures ≠ 0 ∨ hasFailureCode ∨ ¬ state.complete)
      "Market-data worker success state has inconsistent failure or coverage facts."
  | .failed => do
    refuseWhen (state.consecutiveFailures < 1 ∨ ¬ hasFailureCode)
      "Market-data worker failure state has inconsistent failure facts."
    refuseWhen (state.nextRetryAt = none ∨ ∃ retry ∈ state.nextRetryAt, retry ≤ state.lastAttemptAt)
      "Market-data worker failure state is missing a valid retry deadline."
  | .running =>
    refuseWhen ((state.consecutiveFailures = 0) ≠ (hasFailureCode = false))
      "Market-data worker running state has inconsistent retained failure facts."

def validateMarketDataWorkerState (state : WorkerStateFields) : Result Unit := do
  requireNonemptyText state.provider "provider"
  requireNonemptyText state.productId "product_id"
  requireNonnegativeInteger state.consecutiveFailures "consecutive_failures"
  requireNonnegativeInteger state.datasetRevision "dataset_revision"
  requireOrderedTimestamps state
  validateCoverage state
  validateHistoryFloor state
  validateFailureLifecycle state

/-- `MarketDataWorkerState`: fields that passed their validation. -/
structure MarketDataWorkerState extends WorkerStateFields where
  valid : validateMarketDataWorkerState toWorkerStateFields = .ok ()

/-- `MarketDataWorkerState(...)`, with `__post_init__`. -/
def MarketDataWorkerState.new (fields : WorkerStateFields) : Result MarketDataWorkerState :=
  match h : validateMarketDataWorkerState fields with
  | .error failure => .error failure
  | .ok () => .ok ⟨fields, h⟩

/-! ## The in-memory store -/

/-- `_key`: one ingestion target. -/
abbrev TargetKey := String × String × CandleInterval

def MarketDataWorkerAttempt.key (attempt : MarketDataWorkerAttempt) : TargetKey :=
  (attempt.provider, attempt.productId, attempt.timeframe)

/-- The target a row belongs to. -/
def WorkerStateFields.key (state : WorkerStateFields) : TargetKey :=
  (state.provider, state.productId, state.timeframe)

/-- `InMemoryMarketDataWorkerStateStore._states`. -/
abbrev WorkerStates := Dict TargetKey MarketDataWorkerState

def resolveHistoryFloor (success : MarketDataWorkerSuccess) (priorFloor : Option Time) :
    Option Time :=
  match success.historyFloorAt with
  | some floor => some floor
  | none => priorFloor.filter (fun floor => floor = success.coveredStartsAt)

/-- The row `record_attempt` writes. -/
def attemptFields (attempt : MarketDataWorkerAttempt) (prior : Option MarketDataWorkerState) :
    WorkerStateFields where
  provider := attempt.provider
  productId := attempt.productId
  timeframe := attempt.timeframe
  status := .running
  lastAttemptAt := attempt.attemptedAt
  lastSuccessAt := prior.bind (·.lastSuccessAt)
  requestedStartsAt := attempt.requestedStartsAt
  requestedEndsAt := attempt.requestedEndsAt
  coveredStartsAt := prior.bind (·.coveredStartsAt)
  coveredEndsAt := prior.bind (·.coveredEndsAt)
  expectedCandleCount := prior.bind (·.expectedCandleCount)
  receivedCandleCount := prior.bind (·.receivedCandleCount)
  gapCount := prior.bind (·.gapCount)
  missingIntervals := prior.bind (·.missingIntervals)
  complete := prior.elim false (·.complete)
  contentFingerprint := prior.bind (·.contentFingerprint)
  failureCode := prior.bind (·.failureCode)
  failureMessage := prior.bind (·.failureMessage)
  consecutiveFailures := prior.elim 0 (·.consecutiveFailures)
  updatedAt := attempt.attemptedAt
  expectedEndsAt := some (attempt.expectedEndsAt.getD attempt.requestedEndsAt)
  nextRetryAt := none
  datasetRevision := prior.elim 0 (·.datasetRevision)
  maintenanceKind := attempt.maintenanceKind
  enabled := true
  historyFloorAt := prior.bind (·.historyFloorAt)

/-- The row `record_success` writes. -/
def successFields (success : MarketDataWorkerSuccess) (prior : Option MarketDataWorkerState) :
    WorkerStateFields where
  provider := success.attempt.provider
  productId := success.attempt.productId
  timeframe := success.attempt.timeframe
  status := .succeeded
  lastAttemptAt := success.attempt.attemptedAt
  lastSuccessAt := some success.attempt.attemptedAt
  requestedStartsAt := success.attempt.requestedStartsAt
  requestedEndsAt := success.attempt.requestedEndsAt
  coveredStartsAt := some success.coveredStartsAt
  coveredEndsAt := some success.coveredEndsAt
  expectedCandleCount := some success.expectedCandleCount
  receivedCandleCount := some success.receivedCandleCount
  gapCount := some success.gapCount
  missingIntervals := some success.missingIntervals
  complete := true
  contentFingerprint := some success.contentFingerprint
  failureCode := none
  failureMessage := none
  consecutiveFailures := 0
  updatedAt := success.attempt.attemptedAt
  expectedEndsAt := some (success.attempt.expectedEndsAt.getD success.attempt.requestedEndsAt)
  nextRetryAt := success.attempt.nextAttemptAt
  datasetRevision := prior.elim 0 (·.datasetRevision) + success.advancesRevision.toInt
  maintenanceKind := success.attempt.maintenanceKind
  enabled := true
  historyFloorAt := resolveHistoryFloor success (prior.bind (·.historyFloorAt))

/-- The row `record_failure` writes. -/
def failureFields (failure : MarketDataWorkerFailure) (prior : Option MarketDataWorkerState) :
    WorkerStateFields where
  provider := failure.attempt.provider
  productId := failure.attempt.productId
  timeframe := failure.attempt.timeframe
  status := .failed
  lastAttemptAt := failure.attempt.attemptedAt
  lastSuccessAt := prior.bind (·.lastSuccessAt)
  requestedStartsAt := failure.attempt.requestedStartsAt
  requestedEndsAt := failure.attempt.requestedEndsAt
  coveredStartsAt := prior.bind (·.coveredStartsAt)
  coveredEndsAt := prior.bind (·.coveredEndsAt)
  expectedCandleCount := prior.bind (·.expectedCandleCount)
  receivedCandleCount := prior.bind (·.receivedCandleCount)
  gapCount := prior.bind (·.gapCount)
  missingIntervals := prior.bind (·.missingIntervals)
  complete := prior.elim false (·.complete)
  contentFingerprint := prior.bind (·.contentFingerprint)
  failureCode := some failure.code
  failureMessage := some failure.message
  consecutiveFailures := prior.elim 0 (·.consecutiveFailures) + 1
  updatedAt := failure.attempt.attemptedAt
  expectedEndsAt := some (failure.attempt.expectedEndsAt.getD failure.attempt.requestedEndsAt)
  nextRetryAt := failure.nextRetryAt
  datasetRevision := prior.elim 0 (·.datasetRevision)
  maintenanceKind := failure.attempt.maintenanceKind
  enabled := true
  historyFloorAt := prior.bind (·.historyFloorAt)

/-- Whether `record_attempt` turns the attempt down: its planning snapshot is not current. -/
def attemptStale (attempt : MarketDataWorkerAttempt) : Option MarketDataWorkerState → Bool
  | none => attempt.expectedConsecutiveFailures ≠ 0
  | some prior =>
    attempt.attemptedAt ≤ prior.lastAttemptAt ∨
      attempt.expectedConsecutiveFailures ≠ prior.consecutiveFailures

/-- The guard `record_success` and `record_failure` share: an older attempt, an attempt
already settled, or another failure count. -/
def reportStale (attempt : MarketDataWorkerAttempt) (prior : MarketDataWorkerState) : Bool :=
  attempt.attemptedAt < prior.lastAttemptAt ∨
    (attempt.attemptedAt = prior.lastAttemptAt ∧ prior.status ≠ .running) ∨
    attempt.expectedConsecutiveFailures ≠ prior.consecutiveFailures

/-- `record_success` also ignores coverage that ends before the recorded one. -/
def successStale (success : MarketDataWorkerSuccess) (prior : MarketDataWorkerState) : Bool :=
  reportStale success.attempt prior || prior.coveredEndsAt.any (success.coveredEndsAt < ·)

/-- `self._states[key] = MarketDataWorkerState(...)`. -/
def assign (states : WorkerStates) (key : TargetKey) (fields : WorkerStateFields) :
    Result WorkerStates := do
  let state ← MarketDataWorkerState.new fields
  return states.set key state

def recordAttempt (states : WorkerStates) (attempt : MarketDataWorkerAttempt) :
    Result (Bool × WorkerStates) := do
  let prior := states.get? attempt.key
  if attemptStale attempt prior then
    return (false, states)
  else
    let states ← assign states attempt.key (attemptFields attempt prior)
    return (true, states)

def recordSuccess (states : WorkerStates) (success : MarketDataWorkerSuccess) :
    Result WorkerStates :=
  let prior := states.get? success.attempt.key
  if prior.any (successStale success) then .ok states
  else assign states success.attempt.key (successFields success prior)

def recordFailure (states : WorkerStates) (failure : MarketDataWorkerFailure) :
    Result WorkerStates :=
  let prior := states.get? failure.attempt.key
  if prior.any (reportStale failure.attempt) then .ok states
  else assign states failure.attempt.key (failureFields failure prior)

end Thytrader.MarketData
