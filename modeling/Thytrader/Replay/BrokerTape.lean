import Thytrader.Execution.Reconcile

/-!
# Broker tapes

`replay/broker_events.py`, `broker.py` and `lookup.py`: a recorder that observes the calls
of a live broker as a list of normalized events, and a scripted broker that answers from
such a list and refuses a call it does not expect next.

Mirroring notes: a delegate is a state and a step that answers a call with a value or one
of the three recorded exceptions; the reading of the clock around a call is a parameter of
the call. Both adapters are the ones with the lookup capability, so a broker without it is
one that is sent no lookup.
-/

namespace Thytrader.Replay

open MarketData Trading

/-! ## Calls and answers -/

/-- `SubmitResult`, with the immediate fill of a paper order. -/
structure SubmitResult extends Execution.SubmitResult where
  fillPrice : Option Decimal := none
  fillFee : Decimal := 0
  deriving DecidableEq

/-- The category of a recorded failure. -/
inductive ErrorCategory where
  | brokerError
  | timeoutError
  | valueError
  deriving DecidableEq

/-- A `BrokerError`, `TimeoutError` or `ValueError`, with its text. -/
structure BrokerFailure where
  category : ErrorCategory
  message : String
  deriving DecidableEq

/-- One call of the broker protocol, with its arguments. -/
inductive BrokerCall where
  | place (clientOrderId productId : String) (side : OrderSide) (kind : OrderKind)
      (quantity : Decimal) (price stopTriggerPrice takeProfitPrice : Option Decimal)
  | cancel (venueOrderId clientOrderId : String)
  | get (venueOrderId clientOrderId : String)
  | fills (productId : String) (orderId : Option String)
  | lookup (clientOrderId productId : String) (submittedAt : Time)
  | match_ (order : Order) (candle : Candle)
  | maker (productId : String) (mark : Decimal) (side : OrderSide)
  deriving DecidableEq

def BrokerCall.Answer : BrokerCall → Type
  | .place .. => SubmitResult
  | .cancel .. => SubmitResult
  | .get .. => SubmitResult
  | .fills .. => List Fill
  | .lookup .. => Option SubmitResult
  | .match_ .. => Option Fill
  | .maker .. => Decimal

/-- What a call does: it returns or raises. -/
abbrev BrokerCall.Outcome (call : BrokerCall) := Except BrokerFailure call.Answer

abbrev Delegate (σ : Type) := σ → (call : BrokerCall) → σ × call.Outcome

/-! ## Events -/

inductive Operation where
  | place
  | cancel
  | get
  | fills
  | match_
  | maker
  | lookup
  deriving DecidableEq

structure BrokerRequest where
  clientOrderId : Option String := none
  venueOrderId : Option String := none
  productId : Option String := none
  side : Option OrderSide := none
  kind : Option OrderKind := none
  quantity : Option Decimal := none
  price : Option Decimal := none
  stopTriggerPrice : Option Decimal := none
  takeProfitPrice : Option Decimal := none
  orderId : Option String := none
  submittedAt : Option Time := none
  mark : Option Decimal := none
  order : Option Order := none
  candle : Option Candle := none
  deriving DecidableEq

/-- The reading of the clock before and after a call. -/
structure CallTimes where
  startedAt : Time
  completedAt : Time
  deriving DecidableEq

structure BrokerEvent where
  operation : Operation
  request : BrokerRequest
  times : CallTimes
  result : Option SubmitResult := none
  fills : List Fill := []
  fill : Option Fill := none
  makerPrice : Option Decimal := none
  error : Option ErrorCategory := none
  deriving DecidableEq

/-- The operation a method of `BrokerMethods` resolves. -/
def BrokerCall.operation : BrokerCall → Operation
  | .place .. => .place
  | .cancel .. => .cancel
  | .get .. => .get
  | .fills .. => .fills
  | .lookup .. => .lookup
  | .match_ .. => .match_
  | .maker .. => .maker

def BrokerCall.request : BrokerCall → BrokerRequest
  | .place clientOrderId productId side kind quantity price stopTriggerPrice takeProfitPrice =>
    { clientOrderId := some clientOrderId, productId := some productId, side := some side
      kind := some kind, quantity := some quantity, price := price
      stopTriggerPrice := stopTriggerPrice, takeProfitPrice := takeProfitPrice }
  | .cancel venueOrderId clientOrderId =>
    { venueOrderId := some venueOrderId, clientOrderId := some clientOrderId }
  | .get venueOrderId clientOrderId =>
    { venueOrderId := some venueOrderId, clientOrderId := some clientOrderId }
  | .fills productId orderId => { productId := some productId, orderId := orderId }
  | .lookup clientOrderId productId submittedAt =>
    { clientOrderId := some clientOrderId, productId := some productId
      submittedAt := some submittedAt }
  | .match_ order candle => { order := some order, candle := some candle }
  | .maker productId mark side =>
    { productId := some productId, mark := some mark, side := some side }

/-- `ValueError(message)`. -/
def valueError {α : Type} (message : String) : Except BrokerFailure α :=
  .error ⟨.valueError, message⟩

def raiseRecordedError (event : BrokerEvent) : Except BrokerFailure Unit :=
  match event.error with
  | none => .ok ()
  | some .brokerError => .error ⟨.brokerError, "recorded broker failure"⟩
  | some .timeoutError => .error ⟨.timeoutError, "recorded broker timeout"⟩
  | some .valueError => .error ⟨.valueError, "recorded broker refusal"⟩

def requireResult (event : BrokerEvent) : Except BrokerFailure SubmitResult := do
  raiseRecordedError event
  match event.result with
  | none => valueError "recorded acknowledgement missing"
  | some result => return result

def readAnswer (event : BrokerEvent) : (call : BrokerCall) → call.Outcome
  | .place .. => requireResult event
  | .cancel .. => requireResult event
  | .get .. => requireResult event
  | .fills .. => do
    raiseRecordedError event
    return event.fills
  | .lookup .. => do
    raiseRecordedError event
    return event.result
  | .match_ .. => do
    raiseRecordedError event
    return event.fill
  | .maker .. => do
    raiseRecordedError event
    match event.makerPrice with
    | none => valueError "recorded maker quote missing"
    | some price => return price

/-! ## Recording -/

def maxBrokerEvents : Nat := 5000

/-- `RecordingBroker`, with the state of its delegate. -/
structure RecordingBroker (σ : Type) where
  delegate : σ
  events : List BrokerEvent := []
  failed : Bool := false

/-- `RecordingBroker.keep`: over the budget the capture is incomplete. -/
def RecordingBroker.keep {σ : Type} (broker : RecordingBroker σ) (event : BrokerEvent) :
    RecordingBroker σ :=
  if maxBrokerEvents ≤ broker.events.length then { broker with failed := true }
  else { broker with events := broker.events ++ [event] }

/-- The delegate call a request stands for, which the methods build complete. -/
def delegateCall (operation : Operation) (request : BrokerRequest) :
    Except BrokerFailure BrokerCall :=
  match operation with
  | .place =>
    match request.clientOrderId, request.productId, request.side, request.kind,
      request.quantity with
    | some client, some product, some side, some kind, some quantity =>
      .ok (.place client product side kind quantity request.price request.stopTriggerPrice
        request.takeProfitPrice)
    | _, _, _, _, _ => valueError "submit input is incomplete"
  | .fills =>
    match request.productId with
    | none => valueError "fill product is missing"
    | some product => .ok (.fills product request.orderId)
  | .cancel =>
    match request.venueOrderId, request.clientOrderId with
    | some venue, some client => .ok (.cancel venue client)
    | _, _ => valueError "order observation identity missing"
  | .get =>
    match request.venueOrderId, request.clientOrderId with
    | some venue, some client => .ok (.get venue client)
    | _, _ => valueError "order observation identity missing"
  | .lookup =>
    match request.clientOrderId, request.productId, request.submittedAt with
    | some client, some product, some submittedAt => .ok (.lookup client product submittedAt)
    | _, _, _ => valueError "order observation identity missing"
  | .maker =>
    match request.productId, request.mark, request.side with
    | some product, some mark, some side => .ok (.maker product mark side)
    | _, _, _ => valueError "maker quote input missing"
  | .match_ =>
    match request.order, request.candle with
    | some order, some candle => .ok (.match_ order candle)
    | _, _ => valueError "match input missing"

def answerEvent (times : CallTimes) : (call : BrokerCall) → call.Answer → BrokerEvent
  | .place client product side kind quantity price stop target, answer =>
    { operation := .place, times := times, result := some answer
      request := (BrokerCall.place client product side kind quantity price stop target).request }
  | .cancel venue client, answer =>
    { operation := .cancel, times := times, result := some answer
      request := (BrokerCall.cancel venue client).request }
  | .get venue client, answer =>
    { operation := .get, times := times, result := some answer
      request := (BrokerCall.get venue client).request }
  | .fills product orderId, answer =>
    { operation := .fills, times := times, fills := answer
      request := (BrokerCall.fills product orderId).request }
  | .lookup client product submittedAt, answer =>
    { operation := .lookup, times := times, result := answer
      request := (BrokerCall.lookup client product submittedAt).request }
  | .match_ order candle, answer =>
    { operation := .match_, times := times, fill := answer
      request := (BrokerCall.match_ order candle).request }
  | .maker product mark side, answer =>
    { operation := .maker, times := times, makerPrice := some answer
      request := (BrokerCall.maker product mark side).request }

/-- A quote or a match: the calls of `RecordingBroker.synchronous`. -/
def BrokerCall.isSynchronous : BrokerCall → Bool
  | .match_ .. => true
  | .maker .. => true
  | _ => false

section

variable {σ : Type} (delegate : Delegate σ)

/-- `RecordingBroker.record`: the event of an asynchronous call, also of one that raises. -/
def RecordingBroker.record (broker : RecordingBroker σ) (operation : Operation)
    (request : BrokerRequest) (times : CallTimes) (call : BrokerCall) :
    RecordingBroker σ × Except BrokerFailure BrokerEvent :=
  let (state, outcome) := delegate broker.delegate call
  let after := { broker with delegate := state }
  match outcome with
  | .error failure =>
    (after.keep
      { operation := operation, request := request, times := times,
        error := some failure.category },
      .error failure)
  | .ok answer =>
    let event := answerEvent times call answer
    (after.keep event, .ok event)

/-- `RecordingBroker.synchronous`: a quote or match that raises leaves no event. -/
def RecordingBroker.synchronous (broker : RecordingBroker σ) (times : CallTimes)
    (call : BrokerCall) : RecordingBroker σ × Except BrokerFailure BrokerEvent :=
  let (state, outcome) := delegate broker.delegate call
  let after := { broker with delegate := state }
  match outcome with
  | .error failure => (after, .error failure)
  | .ok answer =>
    let event := answerEvent times call answer
    (after.keep event, .ok event)

def RecordingBroker.ask (broker : RecordingBroker σ) (call : BrokerCall) (times : CallTimes) :
    RecordingBroker σ × call.Outcome :=
  match delegateCall call.operation call.request with
  | .error failure => (broker, .error failure)
  | .ok asked =>
    let (after, resolved) :=
      if call.isSynchronous then broker.synchronous delegate times asked
      else broker.record delegate call.operation call.request times asked
    (after, resolved.bind (fun event => readAnswer event call))

end

/-! ## Replaying -/

structure ScriptedBroker where
  events : List BrokerEvent
  index : Nat := 0
  failed : Bool := false

def ScriptedBroker.complete (script : ScriptedBroker) : Bool :=
  ¬ script.failed ∧ script.index = script.events.length

def ScriptedBroker.take (script : ScriptedBroker) (operation : Operation)
    (request : BrokerRequest) : ScriptedBroker × Except BrokerFailure BrokerEvent :=
  match script.events[script.index]? with
  | none =>
    ({ script with failed := true }, valueError "broker request exceeds recorded input sequence")
  | some event =>
    if event.operation ≠ operation ∨ event.request ≠ request then
      ({ script with failed := true },
        valueError "broker request or cause order differs from recorded input")
    else ({ script with index := script.index + 1 }, .ok event)

def ScriptedBroker.ask (script : ScriptedBroker) (call : BrokerCall) :
    ScriptedBroker × call.Outcome :=
  let (after, taken) := script.take call.operation call.request
  (after, taken.bind (fun event => readAnswer event call))

/-! ## Runs -/

/-- A call with what it did. -/
abbrev Answered := (call : BrokerCall) × call.Outcome

variable {σ : Type} (delegate : Delegate σ)

def runDelegate : σ → List BrokerCall → σ × List Answered
  | state, [] => (state, [])
  | state, call :: calls =>
    let (next, outcome) := delegate state call
    let (last, outcomes) := runDelegate next calls
    (last, ⟨call, outcome⟩ :: outcomes)

def runRecording : RecordingBroker σ → List (BrokerCall × CallTimes) →
    RecordingBroker σ × List Answered
  | broker, [] => (broker, [])
  | broker, (call, times) :: calls =>
    let (next, outcome) := broker.ask delegate call times
    let (last, outcomes) := runRecording next calls
    (last, ⟨call, outcome⟩ :: outcomes)

def runScript : ScriptedBroker → List BrokerCall → ScriptedBroker × List Answered
  | script, [] => (script, [])
  | script, call :: calls =>
    let (next, outcome) := script.ask call
    let (last, outcomes) := runScript next calls
    (last, ⟨call, outcome⟩ :: outcomes)

end Thytrader.Replay
