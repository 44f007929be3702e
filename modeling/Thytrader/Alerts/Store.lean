import Mathlib.Data.List.Sort
import Mathlib.Data.Prod.Lex
import Mathlib.Data.String.Basic
import Thytrader.Basic
import Thytrader.Lib.Dict

/-!
# Operator alerts and their store

`alerts/models.py` and `alerts/store.py`: one alert row per episode of a failing check, a
watermark per check that rejects stale observations, and the delivery claim that a page
needs before it is sent.

Mirroring notes: a store call runs without awaits, so it is one function of the store. The
history is keyed by the check itself (`code.value` determines the code). `uuid4` is drawn by
the caller: a pass brings an id for each row it may open, a claim its token. An alert's
detail texts are kept where the store writes them.
-/

namespace Thytrader.Alerts

open Lib

/-! ## Records -/

inductive AlertSeverity where
  | info
  | warning
  | critical
  deriving DecidableEq, Repr

/-- `SEVERITY_RANK`. -/
def AlertSeverity.rank : AlertSeverity → Nat
  | info => 0
  | warning => 1
  | critical => 2

inductive AlertScope where
  | deployment
  | worker
  | fleet
  | desk
  deriving DecidableEq, Repr

inductive AlertCode where
  | bookPausedMismatch
  | breakerLatched
  | stopUncovered
  | stopCoverageUnknown
  | stopTriggeredUnfilled
  | decisionDeadlineMissed
  | maintenanceDeadlineMissed
  | workerLeaseStale
  | workerBookFailures
  | fleetEntriesBlocked
  | futuresPositionMismatch
  | futuresAccountUnknown
  | futuresMarginLow
  | futuresFundingDrift
  | futuresExternalOnManagedProduct
  | futuresOrphanOrder
  | deskWakesFailing
  | deskWakesStalled
  | deskUnreadable
  deriving DecidableEq, Repr

def AlertCode.value : AlertCode → String
  | bookPausedMismatch => "BOOK_PAUSED_MISMATCH"
  | breakerLatched => "BREAKER_LATCHED"
  | stopUncovered => "STOP_UNCOVERED"
  | stopCoverageUnknown => "STOP_COVERAGE_UNKNOWN"
  | stopTriggeredUnfilled => "STOP_TRIGGERED_UNFILLED"
  | decisionDeadlineMissed => "DECISION_DEADLINE_MISSED"
  | maintenanceDeadlineMissed => "MAINTENANCE_DEADLINE_MISSED"
  | workerLeaseStale => "WORKER_LEASE_STALE"
  | workerBookFailures => "WORKER_BOOK_FAILURES"
  | fleetEntriesBlocked => "FLEET_ENTRIES_BLOCKED"
  | futuresPositionMismatch => "FUTURES_POSITION_MISMATCH"
  | futuresAccountUnknown => "FUTURES_ACCOUNT_UNKNOWN"
  | futuresMarginLow => "FUTURES_MARGIN_LOW"
  | futuresFundingDrift => "FUTURES_FUNDING_DRIFT"
  | futuresExternalOnManagedProduct => "FUTURES_EXTERNAL_ON_MANAGED_PRODUCT"
  | futuresOrphanOrder => "FUTURES_ORPHAN_ORDER"
  | deskWakesFailing => "DESK_WAKES_FAILING"
  | deskWakesStalled => "DESK_WAKES_STALLED"
  | deskUnreadable => "DESK_UNREADABLE"

/-- `DELIVERY_STATUSES`. -/
inductive DeliveryStatus where
  | pending
  | skipped
  | logged
  | delivered
  | failed
  | exhausted
  deriving DecidableEq, Repr

/-- `AlertCheck`: a condition identity. -/
structure AlertCheck where
  code : AlertCode
  subject : String
  deriving DecidableEq, Repr

structure SupervisionFinding where
  code : AlertCode
  scope : AlertScope
  subject : String
  severity : AlertSeverity
  detail : String
  deploymentId : Option Uuid := none
  productId : Option String := none
  countOccurrence : Bool := true
  deriving DecidableEq

def SupervisionFinding.check (finding : SupervisionFinding) : AlertCheck :=
  ⟨finding.code, finding.subject⟩

structure OperatorAlert where
  id : Uuid
  code : AlertCode
  scope : AlertScope
  subject : String
  severity : AlertSeverity
  detail : String
  firstSeenAt : Time
  lastSeenAt : Time
  occurrences : Nat
  resolvedAt : Option Time := none
  resolutionDetail : String := ""
  deploymentId : Option Uuid := none
  productId : Option String := none
  deliveryProvider : String := "none"
  deliveryStatus : DeliveryStatus := .pending
  deliveryAttempts : Nat := 0
  deliveryDetail : String := ""
  deliveryToken : Option Uuid := none
  deliveryExpiresAt : Option Time := none
  coveredSeverity : Option AlertSeverity := none
  infoAttempts : Nat := 0
  warningAttempts : Nat := 0
  criticalAttempts : Nat := 0
  deriving DecidableEq

def OperatorAlert.isOpen (row : OperatorAlert) : Bool := row.resolvedAt.isNone

def clipAlertText (text : String) : String :=
  if text.length ≤ 500 then text else String.ofList (text.toList.take 497) ++ "..."

def newAlert (finding : SupervisionFinding) (now : Time) (id : Uuid) : OperatorAlert :=
  { id
    code := finding.code
    scope := finding.scope
    subject := finding.subject
    severity := finding.severity
    detail := clipAlertText finding.detail
    firstSeenAt := now
    lastSeenAt := now
    occurrences := 1
    deploymentId := finding.deploymentId
    productId := finding.productId }

/-! ## The store -/

/-- `InMemoryAlertStore`. -/
structure AlertStore where
  history : Dict AlertCheck (List OperatorAlert) := Dict.empty
  checks : Dict AlertCheck (Time × Bool) := Dict.empty

namespace AlertStore

/-- The rows of an identity, oldest first. -/
def rows (store : AlertStore) (check : AlertCheck) : List OperatorAlert :=
  (store.history.get? check).getD []

/-- `_open`. -/
def openRow (store : AlertStore) (check : AlertCheck) : Option OperatorAlert :=
  (store.rows check).reverse.find? OperatorAlert.isOpen

/-- `history[identity][-1] = row`. -/
def putLast (store : AlertStore) (check : AlertCheck) (row : OperatorAlert) : AlertStore :=
  { store with history := store.history.set check ((store.rows check).dropLast ++ [row]) }

/-- `history.setdefault(identity, []).append(row)`. -/
def append (store : AlertStore) (check : AlertCheck) (row : OperatorAlert) : AlertStore :=
  { store with history := store.history.set check (store.rows check ++ [row]) }

end AlertStore

/-! ## Observations -/

/-- The arguments of one `apply_observations` call, with the ids it would draw. -/
structure Pass where
  findings : List SupervisionFinding
  evaluated : List AlertCheck
  now : Time
  detail : String
  ids : AlertCheck → Uuid

/-- `observation_keys`: the unique checks, sorted by code and subject. -/
def observationKeys (findings : List SupervisionFinding) (evaluated : List AlertCheck) :
    List AlertCheck :=
  (evaluated ++ findings.map SupervisionFinding.check).dedup.insertionSort
    (fun a b => toLex (a.code.value, a.subject) ≤ toLex (b.code.value, b.subject))

/-- The last finding for a check (`positive`). -/
def Pass.positive (pass : Pass) (check : AlertCheck) : Option SupervisionFinding :=
  pass.findings.reverse.find? (fun finding => finding.check = check)

structure AlertChange where
  alert : OperatorAlert
  created : Bool
  deriving DecidableEq

structure AlertApplication where
  changes : List AlertChange := []
  resolvedCount : Nat := 0
  deriving DecidableEq

/-- A new observation the watermark refuses: older, or no stronger at the same time. -/
def stale (previous : Option (Time × Bool)) (now : Time) (failed : Bool) : Bool :=
  previous.any (fun mark => now < mark.1 ∨ (mark.1 = now ∧ (mark.2 ∨ !failed)))

/-- The row of a repeated positive observation. -/
def OperatorAlert.refresh (row : OperatorAlert) (finding : SupervisionFinding) (now : Time) :
    OperatorAlert :=
  { row with
    severity := finding.severity
    detail := clipAlertText finding.detail
    lastSeenAt := now
    occurrences := row.occurrences + finding.countOccurrence.toNat }

/-- One turn of the loop of `apply_observations`. -/
def AlertStore.observe (pass : Pass) (applied : AlertApplication × AlertStore)
    (check : AlertCheck) : AlertApplication × AlertStore :=
  let (application, store) := applied
  let finding := pass.positive check
  if stale (store.checks.get? check) pass.now finding.isSome then applied
  else
    let store := { store with checks := store.checks.set check (pass.now, finding.isSome) }
    match finding, store.openRow check with
    | some finding, none =>
      let opened := newAlert finding pass.now (pass.ids check)
      ({ application with changes := application.changes ++ [⟨opened, true⟩] },
        store.append check opened)
    | some finding, some row =>
      let refreshed := row.refresh finding pass.now
      ({ application with changes := application.changes ++ [⟨refreshed, false⟩] },
        store.putLast check refreshed)
    | none, some row =>
      if row.lastSeenAt < pass.now then
        ({ application with resolvedCount := application.resolvedCount + 1 },
          store.putLast check
            { row with
              resolvedAt := some pass.now
              resolutionDetail := clipAlertText pass.detail })
      else (application, store)
    | none, none => (application, store)

def AlertStore.applyObservations (store : AlertStore) (pass : Pass) :
    AlertApplication × AlertStore :=
  (observationKeys pass.findings pass.evaluated).foldl (AlertStore.observe pass) ({}, store)

/-! ## Delivery claims -/

/-- `page_claimable`: an unsent row above its coverage, or a sent row that escalated. -/
def pageClaimable (row : OperatorAlert) : Bool :=
  let above := row.coveredSeverity.all (fun covered => covered.rank < row.severity.rank)
  match row.deliveryStatus with
  | .pending | .skipped | .failed | .exhausted => above
  | .logged | .delivered => row.coveredSeverity.isSome && above

/-- `page_attempts`: the attempts claimed at the row's current severity. -/
def pageAttempts (row : OperatorAlert) : Nat :=
  match row.severity with
  | .info => row.infoAttempts
  | .warning => row.warningAttempts
  | .critical => row.criticalAttempts

def OperatorAlert.countAttempt (row : OperatorAlert) : OperatorAlert :=
  match row.severity with
  | .info => { row with infoAttempts := pageAttempts row + 1 }
  | .warning => { row with warningAttempts := pageAttempts row + 1 }
  | .critical => { row with criticalAttempts := pageAttempts row + 1 }

def deliveryDisabledDetail : String :=
  "notify_provider=none: delivery disabled; alert retained locally"

structure DeliveryClaim where
  alert : OperatorAlert
  token : Uuid
  deriving DecidableEq

/-- A claim that has not expired at `now`. -/
def OperatorAlert.claimedAt (row : OperatorAlert) (now : Time) : Bool :=
  row.deliveryExpiresAt.any (fun expires => now < expires)

namespace AlertStore

def latest (store : AlertStore) (alertId : Uuid) : Option (AlertCheck × OperatorAlert) :=
  store.history.entries.findSome? (fun entry => entry.2.getLast?.bind (fun row =>
    if row.id = alertId ∧ row.isOpen then some (entry.1, row) else none))

def skippedRow (row : OperatorAlert) (provider detail : String) : OperatorAlert :=
  { row with
    deliveryProvider := provider
    deliveryStatus := .skipped
    deliveryDetail := detail
    deliveryToken := none
    deliveryExpiresAt := none }

def claimedRow (row : OperatorAlert) (provider : String) (token : Uuid) (expiresAt : Time) :
    OperatorAlert :=
  { row.countAttempt with
    deliveryProvider := provider
    deliveryStatus := .failed
    deliveryDetail := "delivery attempt awaiting acknowledgement"
    deliveryAttempts := row.deliveryAttempts + 1
    deliveryToken := some token
    deliveryExpiresAt := some expiresAt }

def claimDelivery (store : AlertStore) (alertId : Uuid) (provider : String) (now : Time)
    (maxAttempts : Nat) (ttl : Duration) (severity : Option AlertSeverity) (token : Uuid) :
    Option DeliveryClaim × AlertStore :=
  match store.latest alertId with
  | none => (none, store)
  | some (check, row) =>
    if row.claimedAt now then (none, store)
    else if severity.any (fun severity => row.severity ≠ severity) then (none, store)
    else if provider = "none" then
      if row.deliveryStatus = .pending ∨ row.deliveryStatus = .skipped then
        (none, store.putLast check (skippedRow row provider deliveryDisabledDetail))
      else (none, store)
    else if !pageClaimable row ∨ maxAttempts ≤ pageAttempts row then (none, store)
    else
      let claimed := claimedRow row provider token (now + ttl)
      (some ⟨claimed, token⟩, store.putLast check claimed)

def skipDelivery (store : AlertStore) (alertId : Uuid) (provider : String) (now : Time)
    (detail : String) (coveredSeverity : Option AlertSeverity) : AlertStore :=
  match store.latest alertId with
  | none => store
  | some (check, row) =>
    if ¬ (row.deliveryStatus = .pending ∨ row.deliveryStatus = .skipped) then store
    else if row.claimedAt now then store
    else
      store.putLast check
        { skippedRow row provider (clipAlertText detail) with
          coveredSeverity := coveredSeverity.or row.coveredSeverity }

def claimPlace (store : AlertStore) (alertId token : Uuid) : Option (AlertCheck × Nat) :=
  store.history.entries.findSome? (fun entry =>
    (entry.2.findIdx? (fun row => row.id = alertId ∧ row.deliveryToken = some token)).map
      (fun index => (entry.1, index)))

def acknowledgedRow (row : OperatorAlert) (status : DeliveryStatus) (detail : String)
    (coveredSeverity : Option AlertSeverity) : OperatorAlert :=
  { row with
    deliveryStatus := status
    deliveryDetail := clipAlertText detail
    deliveryToken := none
    deliveryExpiresAt := none
    coveredSeverity := coveredSeverity.or row.coveredSeverity }

def finishDelivery (store : AlertStore) (alertId token : Uuid) (status : DeliveryStatus)
    (detail : String) (coveredSeverity : Option AlertSeverity) : AlertStore :=
  match store.claimPlace alertId token with
  | none => store
  | some (check, index) =>
    { store with
      history := store.history.set check ((store.rows check).modify index
        (fun row => acknowledgedRow row status detail coveredSeverity)) }

end AlertStore

end Thytrader.Alerts
