import Thytrader.Alerts.Store
import Thytrader.Lib.Program

/-!
# Delivering alerts

`alerts/service.py`: a dispatcher reads an open row, skips it when its severity is filtered
or its entry-block episode was already sent, claims a page at the severity it read, sends
it, and acknowledges the outcome.

Mirroring notes: `deliver` is a program whose operations are the store calls, the clock and the
send; everything between two operations runs without an await. A dispatcher of several rows is
several dispatchers that read at the same time. An exception or a cancellation ends the program. The
notification record is left out, the provider's answer is any status.
-/

namespace Thytrader.Alerts

open Lib

/-- `DeliveryStatus` of a send. -/
inductive SendStatus where
  | skipped
  | logged
  | delivered
  | failed
  deriving DecidableEq, Repr

def SendStatus.stored : SendStatus → DeliveryStatus
  | skipped => .skipped
  | logged => .logged
  | delivered => .delivered
  | failed => .failed

def SendStatus.sent : SendStatus → Bool
  | logged | delivered => true
  | skipped | failed => false

def SendStatus.value : SendStatus → String
  | skipped => "skipped"
  | logged => "logged"
  | delivered => "delivered"
  | failed => "failed"

inductive NotifyProvider where
  | none
  | log
  | webhook
  deriving DecidableEq, Repr

def NotifyProvider.value : NotifyProvider → String
  | none => "none"
  | log => "log"
  | webhook => "webhook"

/-- What a dispatcher reads of its configuration for one delivery. -/
structure DeliverySettings where
  provider : NotifyProvider
  minSeverity : String
  entryBlockGrace : Duration

/-- `_SEVERITY_RANK.get(minimum, 0)`. -/
def minimumRank (minimum : String) : Nat :=
  if minimum = "warning" then 1 else if minimum = "critical" then 2 else 0

/-! ## Entry-block episodes -/

def episodeHistory : Nat := 500

structure Episode where
  started : Time
  sent : Option OperatorAlert := none
  sending : Bool := false

def continues (row : OperatorAlert) (started : Time) (grace : Duration) : Bool :=
  row.resolvedAt.any (fun resolvedAt => started - resolvedAt ≤ grace)

/-- The loop of `_entry_block_episode`; `beyond` is the history past the window. -/
def walkEpisode (alert : OperatorAlert) (grace : Duration) (now : Time)
    (beyond : List OperatorAlert) : List OperatorAlert → Time → Episode
  | [], started =>
    if beyond.head?.any (fun row => continues row started grace) then { started := started - grace }
    else { started }
  | row :: rest, started =>
    match row.resolvedAt with
    | none => walkEpisode alert grace now beyond rest started
    | some resolvedAt =>
      if row.id = alert.id ∨ started < resolvedAt then
        walkEpisode alert grace now beyond rest started
      else if grace < started - resolvedAt then { started }
      else
        let started := min started row.firstSeenAt
        if row.claimedAt now then { started, sending := true }
        else if row.coveredSeverity.any (fun covered => alert.severity.rank ≤ covered.rank) then
          { started, sent := some row }
        else walkEpisode alert grace now beyond rest started

def entryBlockEpisode (alert : OperatorAlert) (history : List OperatorAlert) (grace : Duration)
    (now : Time) : Episode :=
  walkEpisode alert grace now (history.drop episodeHistory) (history.take episodeHistory)
    alert.firstSeenAt

/-! ## The program -/

/-- One awaited call of a dispatcher. -/
inductive DeliveryOp where
  | readOpen
  | clock
  | listResolved (check : AlertCheck) (limit : Nat)
  | claim (alertId : Uuid) (provider : NotifyProvider) (now : Time) (ttl : Duration)
      (severity : AlertSeverity)
  | skip (alertId : Uuid) (provider : NotifyProvider) (now : Time) (detail : String)
      (coveredSeverity : Option AlertSeverity)
  | send (claim : DeliveryClaim)
  | finish (alertId token : Uuid) (status : DeliveryStatus) (detail : String)
      (coveredSeverity : Option AlertSeverity)

abbrev DeliveryOp.Answer : DeliveryOp → Type
  | .readOpen => OperatorAlert
  | .clock => Time
  | .listResolved _ _ => List OperatorAlert
  | .claim _ _ _ _ _ => Option DeliveryClaim
  | .skip _ _ _ _ _ => Unit
  | .send _ => SendStatus
  | .finish _ _ _ _ _ => Unit

abbrev DeliveryProgram := Program Empty DeliveryOp DeliveryOp.Answer

def call (op : DeliveryOp) : DeliveryProgram op.Answer := .perform op .done

def entryBlockDue (settings : DeliverySettings) (alert : OperatorAlert) (now : Time) :
    DeliveryProgram Bool :=
  if settings.entryBlockGrace ≤ 0 then pure true
  else do
    let history ← call (.listResolved ⟨alert.code, alert.subject⟩ (episodeHistory + 1))
    let episode := entryBlockEpisode alert history settings.entryBlockGrace now
    if episode.sending then pure false
    else match episode.sent with
      | some sent =>
        if alert.deliveryStatus = .skipped then pure false
        else do
          call (.skip alert.id settings.provider now
            ("continues an entry-block episode already sent (see alert " ++
              String.ofList (uuidText sent.id) ++ ")") sent.coveredSeverity)
          pure false
      | none => pure (settings.entryBlockGrace ≤ now - episode.started)

/-- The severity filter applies to this row. -/
def belowMinimum (settings : DeliverySettings) (alert : OperatorAlert) : Bool :=
  settings.provider ≠ .none ∧ alert.severity.rank < minimumRank settings.minSeverity

def episodeApplies (settings : DeliverySettings) (alert : OperatorAlert) : Bool :=
  settings.provider ≠ .none ∧ alert.code = .fleetEntriesBlocked ∧
    (alert.deliveryStatus = .pending ∨ alert.deliveryStatus = .skipped ∨
      alert.deliveryStatus = .failed ∨ alert.deliveryStatus = .exhausted)

/-- The claim and the send of `deliver`. -/
def claimAndSend (settings : DeliverySettings) (alert : OperatorAlert) (now : Time) :
    DeliveryProgram Unit := do
  match ← call (.claim alert.id settings.provider now (60 * 1000000) alert.severity) with
  | none => pure ()
  | some claim =>
    let status ← call (.send claim)
    call (.finish alert.id claim.token status.stored
      (if status = .skipped then deliveryDisabledDetail
        else "notification outcome: " ++ status.value)
      (if status.sent then some claim.alert.severity else none))

def deliver (settings : DeliverySettings) (alert : OperatorAlert) (now : Time) :
    DeliveryProgram Unit :=
  if belowMinimum settings alert then
    let detail := "below notify_min_severity=" ++ settings.minSeverity ++
      ": alert retained locally"
    if alert.deliveryStatus = .pending ∨
        (alert.deliveryStatus = .skipped ∧ alert.deliveryDetail ≠ detail) then
      call (.skip alert.id settings.provider now detail none)
    else pure ()
  else if episodeApplies settings alert then do
    if ← entryBlockDue settings alert now then claimAndSend settings alert now else pure ()
  else claimAndSend settings alert now

/-- One row of `dispatch_pending`, delivered at its own instant. -/
def dispatch (settings : DeliverySettings) : DeliveryProgram Unit := do
  let alert ← call .readOpen
  let now ← call .clock
  deliver settings alert now

/-! ## Dispatchers side by side -/

/-- A claim that was granted. -/
structure ClaimRecord where
  alertId : Uuid
  token : Uuid
  severity : AlertSeverity
  expiresAt : Time
  deriving DecidableEq

/-- The store, the clock, the dispatchers and the history, oldest first: granted claims,
acknowledged sends, the tokens of finished claims. -/
structure Desk where
  store : AlertStore := {}
  clock : Time := 0
  tasks : List (DeliveryProgram Unit) := []
  claims : List ClaimRecord := []
  finished : List Uuid := []
  sends : List (Uuid × AlertSeverity) := []

/-- What a call draws or is answered from outside the store. -/
structure DeliveryInputs where
  pick : Nat := 0
  token : Uuid := 0
  status : SendStatus := .delivered

/-- `list_open_alerts`. -/
def AlertStore.listOpen (store : AlertStore) : List OperatorAlert :=
  store.history.entries.flatMap (fun entry => entry.2.filter OperatorAlert.isOpen)

/-- `list_resolved`: most recently resolved first. -/
def AlertStore.listResolved (store : AlertStore) (check : AlertCheck) (limit : Nat) :
    List OperatorAlert :=
  (((store.rows check).filter (fun row => !row.isOpen)).insertionSort (fun a b =>
    b.resolvedAt.getD b.lastSeenAt ≤ a.resolvedAt.getD a.lastSeenAt)).take limit

namespace Desk

def granted (desk : Desk) (expiresAt : Time) : Option DeliveryClaim → Desk
  | none => desk
  | some claim =>
    { desk with
      claims := desk.claims ++ [⟨claim.alert.id, claim.token, claim.alert.severity, expiresAt⟩] }

def acknowledged (desk : Desk) (alertId token : Uuid) (coveredSeverity : Option AlertSeverity) :
    Desk :=
  { desk with
    finished := token :: desk.finished
    sends := match desk.store.claimPlace alertId token, coveredSeverity with
      | some _, some severity => desk.sends ++ [(alertId, severity)]
      | _, _ => desk.sends }

/-- One call of a dispatcher: its answer, if it can be answered, and the desk after it. -/
def perform (maxAttempts : Nat) (desk : Desk) (inputs : DeliveryInputs) :
    (op : DeliveryOp) → Option (op.Answer × Desk)
  | .readOpen => (desk.store.listOpen[inputs.pick]?).map (fun row => (row, desk))
  | .clock => some (desk.clock, desk)
  | .listResolved check limit => some (desk.store.listResolved check limit, desk)
  | .claim alertId provider now ttl severity =>
    let (claim, store) := desk.store.claimDelivery alertId provider.value now maxAttempts ttl
      (some severity) inputs.token
    some (claim, { desk with store }.granted (now + ttl) claim)
  | .skip alertId provider now detail coveredSeverity =>
    some ((), { desk with
      store := desk.store.skipDelivery alertId provider.value now detail coveredSeverity })
  | .send _ => some (inputs.status, desk)
  | .finish alertId token status detail coveredSeverity =>
    some ((), { desk.acknowledged alertId token coveredSeverity with
      store := desk.store.finishDelivery alertId token status detail coveredSeverity })

/-- What happens next. -/
inductive Event where
  | start (settings : DeliverySettings)
  | advance (index : Nat) (inputs : DeliveryInputs)
  | observe (pass : Pass)
  | tick (now : Time)

def tokenFresh (desk : Desk) (token : Uuid) : Bool :=
  desk.claims.all (fun claim => claim.token ≠ token)

def idsFresh (store : AlertStore) (pass : Pass) : Bool :=
  let ids := (observationKeys pass.findings pass.evaluated).map pass.ids
  decide ids.Nodup && store.history.entries.all (fun entry =>
    entry.2.all (fun row => row.id ∉ ids))

/-- One event, if it can happen. -/
def play (maxAttempts : Nat) (desk : Desk) : Event → Option Desk
  | .start settings => some { desk with tasks := desk.tasks ++ [dispatch settings] }
  | .advance index inputs =>
    match desk.tasks[index]? with
    | some (.perform op next) =>
      if desk.tokenFresh inputs.token then
        (desk.perform maxAttempts inputs op).map (fun result =>
          { result.2 with tasks := result.2.tasks.set index (next result.1) })
      else none
    | _ => none
  | .observe pass =>
    if idsFresh desk.store pass then
      some { desk with store := (desk.store.applyObservations pass).2 }
    else none
  | .tick now => if desk.clock ≤ now then some { desk with clock := now } else none

end Desk

end Thytrader.Alerts
