import Thytrader.Execution.RuntimeOps

/-!
# Rejected protection

`execution/exit_guards.py`: the run of identical rejected submits standing against a
position, the back-off after it, and the latch that waits for an operator.

Mirroring notes: `timedelta` multiplication raises `OverflowError` outside its range, so a
delay is optional. `sorted(..., reverse=True)` keeps equal keys in their order, as an insertion
sort by descending key does. A set of intent ids is the list of them.
-/

namespace Thytrader.Execution

open Trading
open MarketData (isFuturesProductId minuteLength)

/-- `PROTECTIVE_REJECTED_PREFIX`. -/
def protectiveRejectedHead : String := "PROTECTIVE_SUBMIT_REJECTED"

def maxIdenticalRejections : Nat := 5

def backoffBase : Duration := minuteLength

def backoffCap : Duration := 30 * minuteLength

def dayLength : Duration := 24 * 60 * minuteLength

/-- `timedelta * int`; `none` is its `OverflowError`. -/
def timesDelta (delta : Duration) (factor : Int) : Option Duration :=
  if -(999999999 * dayLength) ≤ delta * factor ∧ delta * factor < 1000000000 * dayLength then
    some (delta * factor)
  else none

/-- `SubmitRejection`. A run that is reported has counted at least one rejection. -/
structure SubmitRejection where
  label : String
  count : Nat
  reason : String
  lastRejectedAt : Time
  deriving DecidableEq

namespace SubmitRejection

/-- The delay of `retry_at`. -/
def delay (rejection : SubmitRejection) : Option Duration :=
  (timesDelta backoffBase (2 ^ (rejection.count - 1))).map (fun delay => min delay backoffCap)

/-- `SubmitRejection.retry_at`; `none` is its `OverflowError`. -/
def retryAt (rejection : SubmitRejection) : Option Time :=
  rejection.delay.map (fun delay => rejection.lastRejectedAt + delay)

/-- `rejection_detail`. -/
def detail (rejection : SubmitRejection) : String :=
  protectiveRejectedHead ++ ": Coinbase rejected the " ++ rejection.label ++ " " ++
    toString rejection.count ++ " time(s) (" ++ String.ofList (rejection.reason.toList.take 160) ++
    "). Identical retries back off and stop after repeated rejections; check balances and " ++
    "holds on Coinbase, then resume."

end SubmitRejection

def isRejectionDetail (detail : Option String) : Bool :=
  startsWith (detail.getD "").toList protectiveRejectedHead.toList

/-- `rejection_latched`; `none` is an `OverflowError` of the back-off. -/
def rejectionLatched (snapshot : DeploymentSnapshot) (rejection : SubmitRejection) (now : Time) :
    Option Bool :=
  rejection.retryAt.map (fun retry =>
    if now < retry then true
    else if rejection.count < maxIdenticalRejections then false
    else isRejectionDetail snapshot.deployment.mismatchDetail)

/-- `order.reject_reason or "rejected"`. -/
def rejectReasonText (order : Order) : String := orBlank (order.rejectReason.getD "") "rejected"

/-- The accumulator of `_rejection_run`: `count`, `reason`, `last_at`. -/
structure RejectionTally where
  count : Nat := 0
  reason : Option String := none
  lastAt : Option Time := none
  deriving DecidableEq

/-- The loop of `_rejection_run`, newest order first. -/
def tallyRejections (matching : Order → Bool) : List Order → RejectionTally → RejectionTally
  | [], tally => tally
  | order :: rest, tally =>
    if order.status ≠ .rejected ∨ matching order = false then tally
    else
      let current := rejectReasonText order
      if tally.reason ≠ none ∧ tally.reason ≠ some current then tally
      else
        tallyRejections matching rest
          { count := tally.count + 1
            reason := some current
            lastAt := tally.lastAt.or (some order.updatedAt) }

def newestFirst (snapshot : DeploymentSnapshot) (purposes : List IntentPurpose) : List Order :=
  let intentIds := (snapshot.intents.filter (fun intent => intent.purpose ∈ purposes)).map (·.id)
  (snapshot.orders.filter (fun order => order.intentId ∈ intentIds)).insertionSort
    (fun first second => second.createdAt ≤ first.createdAt)

def rejectionRun (snapshot : DeploymentSnapshot) (label : String) (purposes : List IntentPurpose)
    (matching : Order → Bool) : Option SubmitRejection :=
  match tallyRejections matching (newestFirst snapshot purposes) {} with
  | ⟨count, some reason, some lastAt⟩ => if count = 0 then none else some ⟨label, count, reason, lastAt⟩
  | _ => none

def sameGeometry (position : Position) (order : Order) : Bool :=
  if order.quantity ≠ position.quantity ∨ order.stopTriggerPrice ≠ some position.stopPrice then false
  else
    match position.targetPrice with
    | none => order.kind = .stopLimit
    | some target => order.price = some target

/-- The purposes whose rejections `bracket_rejection` reads. -/
def protectivePurposes (position : Position) : List IntentPurpose :=
  if position.targetPrice = none ∧ isFuturesProductId position.productId then [.bracket, .stop]
  else [.bracket]

def protectiveLabel (position : Position) : String :=
  if position.targetPrice ≠ none then "live bracket" else "live stop-limit"

def bracketRejection (snapshot : DeploymentSnapshot) (position : Position) :
    Option SubmitRejection :=
  rejectionRun snapshot (protectiveLabel position) (protectivePurposes position)
    (sameGeometry position)

end Thytrader.Execution
