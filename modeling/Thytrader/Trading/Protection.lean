import Thytrader.Trading.Inventory

/-!
# Live protection evidence

`trading/protection.py`, `trading/protection_evidence.py` and
`trading/protection_orders.py`: how much of one product book the recorded stop
orders cover. The order rows of the product are folded by venue identity, each
survivor is classified, and the confirmed remainders are summed against the
position.

Mirroring notes: a set of reason codes is a `Finset`, and the codes are the
source's closed list, so `_ordered_reasons` has no unexpected code to sort.
`utc_now()` is the argument `now`, a `Stamp` because the entry point rejects a
naive clock.
-/

namespace Thytrader.Trading

open Lib

/-! ## Vocabulary -/

/-- `PROTECTION_REASONS`, in display order. -/
inductive Reason where
  | flat
  | inventoryProjectionUnresolved
  | runtimePositionUnresolved
  | fillEconomicsUnsettled
  | inventoryEvidenceIncomplete
  | syntheticWorkerDependent
  | venueStopResting
  | duplicateOrderIgnored
  | takeProfitOnly
  | closingSideMismatch
  | stopPriceMismatch
  | staleBracket
  | stopGeometryInvalid
  | stopGeometryUnknown
  | unsupportedStopKind
  | venueIdentityMissing
  | localObservationOnly
  | venueEvidenceStale
  | observationTimeUnknown
  | observationTimeFuture
  | stopQuantityShort
  | partialStopQuantity
  | pendingNotConfirmed
  | unknownNotConfirmed
  | noRestingStop
  deriving DecidableEq, Repr

/-- The codes in the order they are displayed. -/
def protectionReasons : List Reason :=
  [.flat, .inventoryProjectionUnresolved, .runtimePositionUnresolved, .fillEconomicsUnsettled,
    .inventoryEvidenceIncomplete, .syntheticWorkerDependent, .venueStopResting,
    .duplicateOrderIgnored, .takeProfitOnly, .closingSideMismatch, .stopPriceMismatch,
    .staleBracket, .stopGeometryInvalid, .stopGeometryUnknown, .unsupportedStopKind,
    .venueIdentityMissing, .localObservationOnly, .venueEvidenceStale, .observationTimeUnknown,
    .observationTimeFuture, .stopQuantityShort, .partialStopQuantity, .pendingNotConfirmed,
    .unknownNotConfirmed, .noRestingStop]

def orderedReasons (found : Finset Reason) : List Reason :=
  protectionReasons.filter (fun code => code ∈ found)

inductive ProtectionStatus where
  | flat
  | covered
  | unprotected
  | unknown
  deriving DecidableEq, Repr

inductive ProtectionMechanism where
  | venue
  | synthetic
  | none
  | unverified
  deriving DecidableEq, Repr

inductive ObservationSource where
  | venueOrderState
  | persistedOrder
  | syntheticWorker
  | none
  deriving DecidableEq, Repr

inductive Freshness where
  | recentVenue
  | stale
  | unknown
  deriving DecidableEq, Repr

inductive GeometryBasis where
  | workingTarget
  | stopLimitTrigger
  | unknown
  deriving DecidableEq, Repr

/-- `LOCAL_EVIDENCE_MAX_AGE`: 120 seconds. -/
def localEvidenceMaxAge : Duration := 120 * 1000000

/-- `int(LOCAL_EVIDENCE_MAX_AGE.total_seconds())`. -/
def freshnessMaxAgeSeconds : Int := localEvidenceMaxAge / 1000000

structure ProtectionEvidence where
  status : ProtectionStatus
  requiredQuantity : Option Decimal
  coveredQuantity : Option Decimal
  uncoveredQuantity : Option Decimal
  stopSide : Option OrderSide
  stopSideValid : Bool
  stopGeometryValid : Bool
  mechanism : ProtectionMechanism
  venueResting : Bool
  workerDependent : Bool
  observedAt : Option Time
  verifiedAt : Option Time
  observationSource : ObservationSource
  freshness : Freshness
  evaluatedAt : Time
  freshnessMaxAgeSeconds : Int
  geometryBasis : GeometryBasis
  reasons : List Reason
  deriving DecidableEq

/-- `_ACTIVE_STATUSES`. -/
def OrderStatus.active : OrderStatus → Bool
  | .pending => true
  | .open => true
  | .unknown => true
  | _ => false

/-- `_STOP_PURPOSES`. -/
def IntentPurpose.stops : IntentPurpose → Bool
  | .stop => true
  | .bracket => true
  | _ => false

/-! ## Order rows -/

/-- `_aware`: a naive timestamp is dropped. -/
def aware : Option Stamp → Option Time
  | some (.aware instant) => some instant
  | _ => none

/-- `_venue_observed`: the receipt time of an order row, none for an unknown order. -/
def venueObserved (order : Order) : Option Time :=
  if order.status = .unknown then none else aware order.venueObservedAt

/-- `_remaining`: unfilled quantity, floored at zero. -/
def remaining (order : Order) : Decimal :=
  let left := order.quantity - order.filledQuantity
  if 0 < left then left else 0

def orderGeometry (order : Order) :
    OrderSide × OrderKind × Option Decimal × Option Decimal × Option Decimal :=
  (order.side, order.kind, order.stopTriggerPrice, order.takeProfitPrice, order.price)

/-- `_parent_attached_venue_id`: the parent's attached child id when this row is that child. -/
def parentAttachedVenueId (snapshot : DeploymentSnapshot) (order : Order) : Option String :=
  match order.parentOrderId with
  | none => none
  | some parentId =>
    (snapshot.orders.find? (fun parent =>
      parent.id = parentId ∧ parent.attachedChildVenueOrderId.any (· ≠ ""))).bind
        (·.attachedChildVenueOrderId)

/-- `_cover_identity`: `venue:…` for an order the venue named, else `order:…`. -/
inductive CoverIdentity where
  | venue (id : String)
  | order (id : Uuid)
  deriving DecidableEq, Repr

/-- `identity.startswith("venue:")`. -/
def CoverIdentity.isVenue : CoverIdentity → Bool
  | .venue _ => true
  | .order _ => false

def coverIdentity (snapshot : DeploymentSnapshot) (order : Order) : CoverIdentity :=
  match orText order.venueOrderId (parentAttachedVenueId snapshot order) with
  | some id => .venue id
  | none => .order order.id

/-- The row of a contradictory history: unknown, with no receipt. -/
def conflicted (order : Order) : Order :=
  { order with status := .unknown, venueObservedAt := none }

/-- `_prefer_duplicate`: the newer receipt of two rows of one venue order, or a
conflict that confirms nothing. -/
def preferDuplicate (left right : Order) : Order :=
  let smaller := if remaining left ≤ remaining right then left else right
  if orderGeometry left ≠ orderGeometry right ∨ left.quantity ≠ right.quantity then
    conflicted smaller
  else
    match venueObserved left, venueObserved right with
    | some leftTime, some rightTime =>
      if leftTime = rightTime then
        if left.status = right.status then smaller else conflicted smaller
      else
        let (newer, older) := if rightTime < leftTime then (left, right) else (right, left)
        if older.status.active = false ∧ newer.status.active then conflicted smaller
        else if remaining older < remaining newer then conflicted smaller
        else newer
    | _, _ => conflicted smaller

/-- `datetime.min` in UTC. -/
def datetimeMin : Time := -62135596800 * 1000000

/-- The rows of one product, oldest receipt first; the sort is stable. -/
def orderedProductRows (snapshot : DeploymentSnapshot) (productId : String) : List Order :=
  (snapshot.orders.filter
    (fun order => resolvedProductId order.productId snapshot.deployment = productId)).insertionSort
      (fun left right =>
        (venueObserved left).getD datetimeMin ≤ (venueObserved right).getD datetimeMin)

/-- One step of the fold of `_deduped_active`. -/
def dedupeStep (snapshot : DeploymentSnapshot) (chosen : Dict CoverIdentity Order × Bool)
    (order : Order) : Dict CoverIdentity Order × Bool :=
  let key := coverIdentity snapshot order
  match chosen.1.get? key with
  | none => (chosen.1.set key order, chosen.2)
  | some prior => (chosen.1.set key (preferDuplicate prior order), true)

/-- `_deduped_active`: one row per identity, and whether any identity was repeated. -/
def dedupedActive (snapshot : DeploymentSnapshot) (productId : String) : List Order × Bool :=
  let folded := (orderedProductRows snapshot productId).foldl (dedupeStep snapshot)
    (Dict.empty, false)
  (folded.1.values, folded.2)

/-! ## Classifying one order -/

inductive HitRole where
  | confirmed
  | pending
  | unknown
  | ignored
  deriving DecidableEq, Repr

/-- `_Hit`: one active order's contribution to cover. -/
structure Hit where
  remaining : Decimal
  role : HitRole
  flags : Finset Reason
  observedAt : Option Time
  sideValid : Bool := false
  geometryValid : Bool := false
  deriving DecidableEq

/-- `{intent.id: intent.purpose for intent in snapshot.intents}`. -/
def intentPurposes (snapshot : DeploymentSnapshot) : Dict Uuid IntentPurpose :=
  snapshot.intents.foldl (fun purposes intent => purposes.set intent.id intent.purpose) Dict.empty

def wrongSideFlags (order : Order) (purposes : Dict Uuid IntentPurpose) : Finset Reason :=
  let purpose := purposes.get? order.intentId
  if purpose.any (·.stops) ∨ purpose = some .takeProfit then {.closingSideMismatch}
  else if order.kind.isVenueProtection then {.closingSideMismatch}
  else ∅

def takeProfitOnly (order : Order) (purposes : Dict Uuid IntentPurpose) : Bool :=
  if purposes.get? order.intentId = some .takeProfit then true
  else if order.stopTriggerPrice ≠ none ∨ order.kind.isVenueProtection then false
  else purposes.contains order.intentId = false ∧ order.kind = .postOnlyLimit

def unsupportedKindFlags (order : Order) (purposes : Dict Uuid IntentPurpose) : Finset Reason :=
  if (purposes.get? order.intentId).any (·.stops) ∨ order.stopTriggerPrice ≠ none then
    {.unsupportedStopKind}
  else ∅

def missingTriggerFlags (order : Order) : Finset Reason :=
  if order.status = .unknown then {.unknownNotConfirmed} else {.stopGeometryInvalid}

def priceMismatchFlags (order : Order) : Finset Reason :=
  if order.kind = .triggerBracket ∨ order.takeProfitPrice ≠ none then
    {.stopPriceMismatch, .staleBracket}
  else {.stopPriceMismatch}

def bracketTarget (order : Order) : Option Decimal :=
  if order.takeProfitPrice ≠ none then order.takeProfitPrice
  else if order.kind = .triggerBracket then order.price
  else none

def targetMatches (order : Order) (position : Position) : Bool :=
  if order.kind = .stopLimit then order.takeProfitPrice = none
  else
    match bracketTarget order with
    | none => order.kind ≠ .triggerBracket
    | some observed =>
      if position.targetPrice ≠ some observed then false
      else order.price = none ∨ order.price = position.targetPrice

def stopLimitFlags (order : Order) (position : Position) : Finset Reason :=
  match order.price, order.stopTriggerPrice with
  | some limit, some trigger =>
    if limit ≤ 0 ∨ trigger ≤ 0 then {.stopGeometryInvalid}
    else
      let valid : Bool := if position.side = .short then trigger ≤ limit else limit ≤ trigger
      if valid then ∅ else {.stopGeometryInvalid}
  | _, _ => {.stopGeometryUnknown}

/-- `_geometry_flags`: why this stop does not match the book; empty when it does. -/
def geometryFlags (order : Order) (position : Position) (bookOk : Option Bool) : Finset Reason :=
  if bookOk = some false then {.stopGeometryInvalid}
  else
    match order.stopTriggerPrice with
    | none => missingTriggerFlags order
    | some trigger =>
      if trigger ≠ position.stopPrice then priceMismatchFlags order
      else if targetMatches order position = false then {.staleBracket}
      else if order.kind = .stopLimit then stopLimitFlags order position
      else if bookOk = none then {.stopGeometryUnknown}
      else ∅

def observationFlags (observed : Option Time) (now : Time) (venueIdentity : Bool) :
    Finset Reason :=
  let identity : Finset Reason := if venueIdentity then ∅ else {.venueIdentityMissing}
  let age : Finset Reason :=
    match observed with
    | none => {.observationTimeUnknown}
    | some instant =>
      if now < instant then {.observationTimeFuture}
      else if localEvidenceMaxAge < now - instant then {.venueEvidenceStale}
      else ∅
  identity ∪ age

def unreadableRole (order : Order) (flags : Finset Reason) : HitRole :=
  if .stopGeometryUnknown ∈ flags then .unknown
  else if order.status = .unknown ∧ .unknownNotConfirmed ∈ flags then .unknown
  else .ignored

/-- `_open_role`: only OPEN adds confirmed quantity. -/
def openRole (order : Order) : HitRole :=
  match order.status with
  | .open => .confirmed
  | .pending => .pending
  | .unknown => .unknown
  | _ => .ignored

def classifyOrder (order : Order) (position : Position) (closing : OrderSide)
    (bookOk : Option Bool) (purposes : Dict Uuid IntentPurpose) (venueIdentity : Bool)
    (now : Time) : Hit :=
  let observed := venueObserved order
  if order.status.active = false then ⟨0, .ignored, ∅, none, false, false⟩
  else if order.side ≠ closing then
    ⟨0, .ignored, wrongSideFlags order purposes, none, false, false⟩
  else if takeProfitOnly order purposes then
    ⟨0, .ignored, {.takeProfitOnly}, none, false, false⟩
  else if order.kind.isVenueProtection = false then
    let flags := unsupportedKindFlags order purposes
    ⟨0, if order.status = .unknown ∧ flags ≠ ∅ then .unknown else .ignored, flags, none, false,
      false⟩
  else
    let geometry := geometryFlags order position bookOk
    if order.status = .unknown then
      ⟨0, .unknown,
        observationFlags observed now venueIdentity ∪ geometry ∪ {.unknownNotConfirmed}, observed,
        true, geometry = ∅⟩
    else if geometry ≠ ∅ then ⟨0, unreadableRole order geometry, geometry, none, true, false⟩
    else if remaining order ≤ 0 then ⟨0, .ignored, {.stopQuantityShort}, none, true, true⟩
    else
      let flags := observationFlags observed now venueIdentity
      let role := openRole order
      let role := if flags ≠ ∅ ∧ role = .confirmed then .unknown else role
      let flags := if observed = none then flags ∪ {.localObservationOnly} else flags
      ⟨remaining order, role, flags, observed, true, true⟩

/-! ## Folding the hits -/

/-- `_Fold`: book-level totals. -/
structure Fold where
  confirmed : Decimal
  pending : Bool
  unknown : Bool
  flags : Finset Reason
  observedAt : Option Time
  verifiedAt : Option Time
  sideValid : Bool
  geometryValid : Bool

def later (current candidate : Option Time) : Option Time :=
  match candidate, current with
  | none, _ => current
  | some instant, none => some instant
  | some instant, some held => if held < instant then some instant else current

def earliest (instants : List Time) : Option Time :=
  match instants with
  | [] => none
  | first :: rest => some (rest.foldl min first)

/-- One hit of the loop of `_fold_hits`. -/
def foldStep (fold : Fold) (hit : Hit) : Fold :=
  { fold with
    confirmed := if hit.role = .confirmed then fold.confirmed + hit.remaining else fold.confirmed
    pending := fold.pending || hit.role = .pending
    unknown := fold.unknown || hit.role = .unknown
    flags := fold.flags ∪ hit.flags
    observedAt := later fold.observedAt hit.observedAt
    sideValid := fold.sideValid || hit.sideValid
    geometryValid := fold.geometryValid || hit.geometryValid }

/-- `_fold_hits`: sum only fresh OPEN remainders; the oldest contributing receipt
is the verification time. -/
def foldHits (hits : List Hit) (duplicate : Bool) : Fold :=
  let start : Fold :=
    { confirmed := 0
      pending := false
      unknown := false
      flags := if duplicate then {.duplicateOrderIgnored} else ∅
      observedAt := none
      verifiedAt := none
      sideValid := false
      geometryValid := false }
  { hits.foldl foldStep start with
    verifiedAt := earliest ((hits.filter (fun hit => hit.role = .confirmed)).filterMap
      (·.observedAt)) }

/-! ## Evidence -/

def closingSide (position : Position) : OrderSide :=
  if position.side = .short then .buy else .sell

/-- `_book_stop_on_protective_side`: `none` without a target. -/
def bookStopOnProtectiveSide (position : Position) : Option Bool :=
  if position.stopPrice ≤ 0 then some false
  else
    match position.targetPrice with
    | none => none
    | some target =>
      if target ≤ 0 then some false
      else if position.side = .short then some (target < position.stopPrice)
      else some (position.stopPrice < target)

def flatEvidence (now : Time) : ProtectionEvidence :=
  { status := .flat
    requiredQuantity := some 0
    coveredQuantity := some 0
    uncoveredQuantity := some 0
    stopSide := none
    stopSideValid := false
    stopGeometryValid := false
    mechanism := .none
    venueResting := false
    workerDependent := false
    observedAt := none
    verifiedAt := none
    observationSource := .none
    freshness := .unknown
    evaluatedAt := now
    freshnessMaxAgeSeconds := freshnessMaxAgeSeconds
    geometryBasis := .unknown
    reasons := [.flat] }

def unresolvedEvidence (now : Time) (reasons : List Reason) : ProtectionEvidence :=
  { flatEvidence now with
    status := .unknown
    requiredQuantity := none
    coveredQuantity := none
    uncoveredQuantity := none
    mechanism := .unverified
    reasons }

def paperEvidence (position : Position) (now : Time) : ProtectionEvidence :=
  let geometryOk := bookStopOnProtectiveSide position
  let geometry : Finset Reason :=
    match geometryOk with
    | none => {.stopGeometryUnknown}
    | some true => ∅
    | some false => {.stopGeometryInvalid}
  { status := .covered
    requiredQuantity := some position.quantity
    coveredQuantity := some position.quantity
    uncoveredQuantity := some 0
    stopSide := some (closingSide position)
    stopSideValid := true
    stopGeometryValid := geometryOk = some true
    mechanism := .synthetic
    venueResting := false
    workerDependent := true
    observedAt := none
    verifiedAt := none
    observationSource := .syntheticWorker
    freshness := .unknown
    evaluatedAt := now
    freshnessMaxAgeSeconds := freshnessMaxAgeSeconds
    geometryBasis := if geometryOk = none then .unknown else .workingTarget
    reasons := orderedReasons ({.syntheticWorkerDependent} ∪ geometry) }

def liveStatus (covered required : Decimal) (fold : Fold) : ProtectionStatus :=
  if required ≤ covered then .covered
  else if fold.pending || fold.unknown then .unknown
  else .unprotected

def liveMechanism (status : ProtectionStatus) (fold : Fold) : ProtectionMechanism :=
  if status = .covered ∨ 0 < fold.confirmed then .venue
  else if status = .unknown then .unverified
  else .none

def liveReasons (status : ProtectionStatus) (fold : Fold) (covered : Decimal) : List Reason :=
  let resting : Finset Reason :=
    if status = .covered then {.venueStopResting}
    else if 0 < covered then {.partialStopQuantity}
    else ∅
  let pending : Finset Reason := if fold.pending then {.pendingNotConfirmed} else ∅
  let unknown : Finset Reason := if fold.unknown then {.unknownNotConfirmed} else ∅
  let absent : Finset Reason :=
    if status = .unprotected ∧ covered = 0 then {.noRestingStop} else ∅
  orderedReasons (fold.flags ∪ resting ∪ pending ∪ unknown ∪ absent)

def foldFreshness (fold : Fold) : Freshness :=
  if .venueEvidenceStale ∈ fold.flags then .stale
  else if fold.verifiedAt = none ∨ .observationTimeUnknown ∈ fold.flags ∨
      .observationTimeFuture ∈ fold.flags ∨ .venueIdentityMissing ∈ fold.flags then .unknown
  else .recentVenue

def evidenceFromFold (position : Position) (closing : OrderSide) (fold : Fold) (now : Time) :
    ProtectionEvidence :=
  let required := position.quantity
  let covered := if fold.confirmed < required then fold.confirmed else required
  let status := liveStatus covered required fold
  { status
    requiredQuantity := some required
    coveredQuantity := some covered
    uncoveredQuantity := some (required - covered)
    stopSide := some closing
    stopSideValid := fold.sideValid
    stopGeometryValid := fold.geometryValid
    mechanism := liveMechanism status fold
    venueResting := 0 < fold.confirmed
    workerDependent := false
    observedAt := fold.observedAt
    verifiedAt := fold.verifiedAt
    observationSource :=
      if fold.observedAt ≠ none then .venueOrderState
      else if fold.flags ≠ ∅ then .persistedOrder
      else .none
    freshness := foldFreshness fold
    evaluatedAt := now
    freshnessMaxAgeSeconds := freshnessMaxAgeSeconds
    geometryBasis :=
      if fold.geometryValid then
        if position.targetPrice ≠ none then .workingTarget else .stopLimitTrigger
      else .unknown
    reasons := liveReasons status fold covered }

def liveHits (snapshot : DeploymentSnapshot) (productId : String) (position : Position)
    (now : Time) : List Hit :=
  let purposes := intentPurposes snapshot
  (dedupedActive snapshot productId).1.map (fun order =>
    classifyOrder order position (closingSide position) (bookStopOnProtectiveSide position) purposes
      (coverIdentity snapshot order).isVenue now)

def liveEvidence (snapshot : DeploymentSnapshot) (productId : String) (position : Position)
    (now : Time) : ProtectionEvidence :=
  let scope := resolvedProductId (orBlank productId position.productId) snapshot.deployment
  let fold := foldHits (liveHits snapshot scope position now) (dedupedActive snapshot scope).2
  evidenceFromFold position (closingSide position) fold now

/-- `book_inventory_reasons`: durable unresolved economics of one product. -/
def bookInventoryReasons (snapshot : DeploymentSnapshot) (productId : String) : List Reason :=
  let product := resolvedProductId productId snapshot.deployment
  let orders := snapshot.orders.filter
    (fun order => resolvedProductId order.productId snapshot.deployment = product)
  let ids := orders.map (·.id)
  let knownIds := snapshot.orders.map (·.id)
  let fills := snapshot.fills.filter (fun fill => fill.orderId ∈ ids ∨ fill.orderId ∉ knownIds)
  (if product ∈ unprojectedInventoryProducts snapshot then [.inventoryProjectionUnresolved]
    else []) ++
  (if product ∈ missingOccupiedInventoryProducts snapshot then [.runtimePositionUnresolved]
    else []) ++
  (if unsettledFillEvidence { snapshot with orders, fills } then [.fillEconomicsUnsettled] else [])

/-- `book_protection_evidence`: quantitative cover for one book. -/
def bookProtectionEvidence (snapshot : DeploymentSnapshot) (productId : String)
    (position : Option Position) (now : Stamp) : Result ProtectionEvidence :=
  match aware (some now) with
  | none => .error (.valueError "Protection reporting requires an aware UTC clock.")
  | some evaluated =>
    let reasons := bookInventoryReasons snapshot productId
    let reasons :=
      if reasons = [] ∧ position = none ∧ snapshot.accountingComplete = false then
        [.inventoryEvidenceIncomplete]
      else reasons
    if reasons ≠ [] then .ok (unresolvedEvidence evaluated reasons)
    else
      match position with
      | none => .ok (flatEvidence evaluated)
      | some book =>
        if book.quantity ≤ 0 then .ok (flatEvidence evaluated)
        else if snapshot.deployment.mode = .paper then .ok (paperEvidence book evaluated)
        else .ok (liveEvidence snapshot productId book evaluated)

end Thytrader.Trading
