import Thytrader.Execution.LiveProtection

/-!
# One rejected protective submit

What one `_submit_live_bracket` cycle does against a venue that rejects it. The run of identical
rejections is a streak at the head of the stored orders (`rejectionRun_of_head`), its back-off
exists for at most 41 of them (`retryAt_ne_none_iff`), and a cycle either writes a pause detail or
leaves one rejected order more at the head (`CycleEffect`).
-/

namespace Thytrader.Execution

open Trading Lib MemoryStore List SubmitRejection Submission
open MarketData (isFuturesProductId minuteLength)

variable {rejection : SubmitRejection} {deploymentId : Uuid} {current : Deployment}
variable {order : Order} {purposes : List IntentPurpose} {rest : List Order} {next : MemoryStore}
  {expected : Option Int}

/-! ## Counting identical rejections -/

section

variable {matching : Order → Bool} {reason : String}

def identical (matching : Order → Bool) (reason : String) (order : Order) : Bool :=
  order.status = .rejected ∧ matching order = true ∧ rejectReasonText order = reason

def streak (matching : Order → Bool) (reason : String) (orders : List Order) : Nat :=
  (orders.takeWhile (identical matching reason)).length

theorem streak_cons (h : identical matching reason order = true) (orders : List Order) :
    streak matching reason (order :: orders) = streak matching reason orders + 1 := by
  unfold streak
  rw [takeWhile_cons_of_pos h, length_cons]

theorem tallyRejections_of_reason (orders : List Order) (count : Nat) (last : Time) :
    tallyRejections matching orders ⟨count, some reason, some last⟩ =
      ⟨count + streak matching reason orders, some reason, some last⟩ := by
  induction orders generalizing count with
  | nil => simp [tallyRejections, streak]
  | cons order rest ih =>
    by_cases hsame : identical matching reason order = true
    · have hfacts : order.status = .rejected ∧ matching order = true ∧
          rejectReasonText order = reason := of_decide_eq_true hsame
      obtain ⟨hstatus, hmatch, hreason⟩ := hfacts
      rw [streak_cons hsame]
      unfold tallyRejections
      rw [if_neg (by simp [hstatus, hmatch])]
      dsimp only
      rw [hreason, if_neg (by simp)]
      rw [show (some last).or (some order.updatedAt) = some last from rfl, ih]
      congr 1
      omega
    · have hstop : streak matching reason (order :: rest) = 0 := by
        unfold streak
        rw [takeWhile_cons_of_neg hsame]
        rfl
      rw [hstop]
      unfold tallyRejections
      split
      · rfl
      next hrun =>
        rw [if_pos ?_]
        · rfl
        · simp only [not_or, not_not, Bool.not_eq_false] at hrun
          refine ⟨by simp, fun hreason => hsame ?_⟩
          exact decide_eq_true ⟨hrun.1, hrun.2, (Option.some.inj hreason).symm⟩

variable {snapshot : DeploymentSnapshot}

theorem rejectionRun_of_head {label : String} {head : Order}
    (horders : newestFirst snapshot purposes = head :: rest)
    (hhead : identical matching reason head = true) :
    rejectionRun snapshot label purposes matching =
      some ⟨label, streak matching reason (head :: rest), reason, head.updatedAt⟩ := by
  have hfacts : head.status = .rejected ∧ matching head = true ∧
      rejectReasonText head = reason := of_decide_eq_true hhead
  obtain ⟨hstatus, hmatch, hreason⟩ := hfacts
  have htally : tallyRejections matching (head :: rest) {} =
      ⟨streak matching reason (head :: rest), some reason, some head.updatedAt⟩ := by
    rw [streak_cons hhead]
    unfold tallyRejections
    rw [if_neg (by simp [hstatus, hmatch]), hreason]
    show (if _ then _ else tallyRejections matching rest ⟨0 + 1, some reason, some head.updatedAt⟩) = _
    rw [if_neg (by simp), tallyRejections_of_reason]
    congr 1
    omega
  unfold rejectionRun
  rw [horders, htally]
  dsimp only
  rw [if_neg (by rw [streak_cons hhead]; omega)]

end

/-- A row newer than every other is sorted to the front. -/
theorem insertionSort_concat_newest {orders : List Order}
    (h : ∀ older ∈ orders, older.createdAt < order.createdAt) :
    (orders ++ [order]).insertionSort (fun first second => second.createdAt ≤ first.createdAt) =
      order :: orders.insertionSort (fun first second => second.createdAt ≤ first.createdAt) := by
  induction orders with
  | nil => rfl
  | cons older _ ih =>
    have holder := h older (by simp)
    rw [cons_append, insertionSort_cons, ih (fun row hrow => h row (by simp [hrow])),
      orderedInsert_cons, if_neg (not_le.mpr holder), insertionSort_cons]

/-! ## The back-off -/

/-- One minute doubled with every rejection, at most thirty. -/
def backoff (count : Nat) : Duration := min (backoffBase * 2 ^ (count - 1)) backoffCap

/-- The back-off time exists for at most 41 rejections. -/
theorem retryAt_ne_none_iff (hcount : 0 < rejection.count) :
    rejection.retryAt ≠ none ↔ rejection.count ≤ 41 := by
  have hrange : timesDelta backoffBase (2 ^ (rejection.count - 1)) ≠ none ↔ rejection.count ≤ 41 := by
    unfold timesDelta
    constructor
    · intro hsome
      by_contra hlong
      have hle : (2 : Int) ^ 41 ≤ 2 ^ (rejection.count - 1) :=
        pow_le_pow_right₀ (by decide) (by omega)
      refine hsome (if_neg fun hfits => ?_)
      have hlarge : (60000000 : Int) * 2 ^ 41 ≤ 60000000 * 2 ^ (rejection.count - 1) :=
        Int.mul_le_mul_of_nonneg_left hle (by decide)
      exact absurd (hlarge.trans_lt hfits.2) (by decide)
    · intro hshort
      have hle : (2 : Int) ^ (rejection.count - 1) ≤ 2 ^ 40 :=
        pow_le_pow_right₀ (by decide) (by omega)
      have hsmall : (60000000 : Int) * 2 ^ (rejection.count - 1) ≤ 60000000 * 2 ^ 40 :=
        Int.mul_le_mul_of_nonneg_left hle (by decide)
      have hnonneg : (0 : Int) ≤ 60000000 * 2 ^ (rejection.count - 1) := by positivity
      rw [if_pos ⟨le_trans (by decide) hnonneg, hsmall.trans_lt (by decide)⟩]
      simp
  unfold retryAt delay
  simpa using hrange

theorem retryAt_eq_some {retry : Time} (h : rejection.retryAt = some retry) :
    retry = rejection.lastRejectedAt + backoff rejection.count := by
  unfold retryAt delay timesDelta at h
  split at h
  · exact (Option.some.inj h).symm
  · cases h

theorem backoff_pos (count : Nat) : 0 < backoff count := by
  refine lt_min ?_ (by decide)
  exact mul_pos (by decide) (by positivity)

variable {snapshot : DeploymentSnapshot}

/-- An unlatched run: the back-off is over, and five rejections need the detail gone. -/
theorem of_not_latched {now : Time} (h : rejectionLatched snapshot rejection now = some false) :
    rejection.lastRejectedAt + backoff rejection.count ≤ now ∧
      (maxIdenticalRejections ≤ rejection.count →
        isRejectionDetail snapshot.deployment.mismatchDetail = false) := by
  obtain ⟨retry, hretry, hlatched⟩ := Option.map_eq_some_iff.mp h
  rw [← retryAt_eq_some hretry]
  obtain ⟨hlater, hlatched⟩ := of_ite_ne hlatched nofun
  refine ⟨not_lt.mp hlater, fun hmany => ?_⟩
  rw [if_neg (not_lt.mpr hmany)] at hlatched
  exact hlatched

theorem isRejectionDetail_detail (rejection : SubmitRejection) :
    isRejectionDetail (some rejection.detail) = true := by
  unfold isRejectionDetail startsWith detail
  simp [String.toList_append]

/-! ## What the store shows of a book -/

def storedNewest (store : MemoryStore) (deploymentId : Uuid) (purposes : List IntentPurpose) :
    List Order :=
  let intents := store.intents.values.filter (fun intent => intent.deploymentId = deploymentId)
  let orders := store.orders.values.filter (fun order => order.deploymentId = deploymentId)
  let intentIds := (intents.filter (fun intent => intent.purpose ∈ purposes)).map (·.id)
  (orders.filter (fun order => order.intentId ∈ intentIds)).insertionSort
    (fun first second => second.createdAt ≤ first.createdAt)

variable {store : MemoryStore}

theorem newestFirst_of_read
    (h : store.getDeployment deploymentId = .ok snapshot) (purposes : List IntentPurpose) :
    newestFirst snapshot purposes = storedNewest store deploymentId purposes := by
  unfold getDeployment at h
  split at h
  · cases h
  · cases h
    rfl

theorem storedNewest_congr (horders : next.orders = store.orders)
    (hintents : next.intents = store.intents) (deploymentId : Uuid)
    (purposes : List IntentPurpose) :
    storedNewest next deploymentId purposes = storedNewest store deploymentId purposes := by
  unfold storedNewest
  rw [horders, hintents]

/-- A book's row is stored under its own id. -/
def HasRow (store : MemoryStore) (deploymentId : Uuid) (row : Deployment) : Prop :=
  store.deployments.get? deploymentId = some row ∧ row.id = deploymentId

/-- A fence-free save of a stored book writes the row and leaves orders and intents alone. -/
theorem saveDeployment_of_row {row : Deployment} (hrow : HasRow store deploymentId current)
    (hid : row.id = deploymentId) (hexpected : expected = none ∨ expected = some current.revision) :
    ∃ next, store.saveDeployment row expected =
        (.ok (row.withRevision (current.revision + 1)), next) ∧
      HasRow next deploymentId (row.withRevision (current.revision + 1)) ∧
      next.orders = store.orders ∧ next.intents = store.intents := by
  have hfresh : ¬ (expected.isSome = true ∧ expected ≠ some current.revision) := by
    rintro ⟨hsome, hne⟩
    obtain rfl | rfl := hexpected
    · cases hsome
    · exact hne rfl
  unfold saveDeployment
  rw [if_neg (by simp), hid, hrow.1]
  dsimp only
  rw [if_neg hfresh]
  refine ⟨_, rfl, ⟨?_, hid⟩, ?_, ?_⟩
  · rw [(mirrorRuntime_frame _ _).2, putDeployment]
    rw [show (row.withRevision (current.revision + 1)).id = deploymentId from hid,
      Dict.get?_set_self]
  · unfold mirrorRuntime
    dsimp only
    split
    · rfl
    · rfl
  · exact (mirrorRuntime_frame _ _).1.intents

/-! ## One rejected submit -/

/-- The identities a cycle drew are new to the store. -/
structure FreshDraws (store : MemoryStore) (draws : CycleDraws) : Prop where
  intent : store.intents.get? draws.intentId = none
  order : store.orders.get? draws.orderId = none
  owner : ∀ order ∈ store.orders.values, order.intentId ≠ draws.intentId
  client : ∀ order ∈ store.orders.values, order.clientOrderId ≠ draws.clientOrderId

def rejectedAnswer (venueOrderId : String) (reason : Option String) : VenueAnswer :=
  .ok { status := .rejected, venueOrderId, rejectReason := reason }

theorem saveOrder_of_new (store : MemoryStore)
    (hclient : ∀ stored ∈ store.orders.values, stored.clientOrderId ≠ order.clientOrderId)
    (hcancel : withCancelTime order none = order) :
    (store.saveOrder order).2 = { store with orders := store.orders.set order.id order } := by
  have hfind : store.orders.values.find? (fun item => item.clientOrderId = order.clientOrderId) =
      none := by
    rw [find?_eq_none]
    intro stored hstored
    simpa using hclient stored hstored
  unfold saveOrder
  dsimp only
  rw [hfind, hcancel]
  unfold replaceOrder
  rw [hfind]

/-- Saving a newer version of the order just appended replaces it in place. -/
theorem saveOrder_of_last (store : MemoryStore) (first second : Order)
    (hid : store.orders.get? first.id = none) (hsame : second.id = first.id)
    (hclient : ∀ stored ∈ store.orders.values, stored.clientOrderId ≠ first.clientOrderId)
    (hsecond : second.clientOrderId = first.clientOrderId)
    (hcancel : withCancelTime second (some first) = second) :
    ((({ store with orders := store.orders.set first.id first } : MemoryStore).saveOrder
      second).2).orders.values = store.orders.values ++ [second] ∧
    (({ store with orders := store.orders.set first.id first } : MemoryStore).saveOrder
      second).2.deployments = store.deployments ∧
    (({ store with orders := store.orders.set first.id first } : MemoryStore).saveOrder
      second).2.intents = store.intents := by
  have hfind : (store.orders.set first.id first).values.find?
      (fun item => item.clientOrderId = second.clientOrderId) = some first := by
    rw [Dict.values_set_of_absent hid, find?_append, find?_eq_none.mpr ?_]
    · simp [hsecond]
    · intro stored hstored
      simpa [hsecond] using hclient stored hstored
  unfold saveOrder
  dsimp only
  rw [hfind, hcancel]
  unfold replaceOrder
  rw [hfind]
  refine ⟨?_, rfl, rfl⟩
  rw [hsame, Dict.values_set_of_absent (Dict.get?_erase_self _ _)]
  unfold Dict.values
  rw [Dict.erase_set_of_absent hid]

/-- The order a rejected submit leaves behind. -/
def rejectedOrder (intent : OrderIntent) (draws : CycleDraws) (venueOrderId : String)
    (reason : Option String) : Order :=
  settledOrder (Submission.order { intent, orderId := draws.orderId }) draws.settledAt
    (rejectedAnswer venueOrderId reason)

theorem submitIntent_rejected {draws : CycleDraws} (intent : OrderIntent)
    (hfresh : FreshDraws store draws) (hintent : intent.id = draws.intentId)
    (hclient : intent.clientOrderId = draws.clientOrderId) (fence : Option (Uuid × String))
    (venueOrderId : String) (reason : Option String) :
    (∃ failure, submitIntent store fence intent draws (rejectedAnswer venueOrderId reason) =
      (.error failure, store)) ∨
    ∃ next, submitIntent store fence intent draws (rejectedAnswer venueOrderId reason) =
        (.ok (rejectedOrder intent draws venueOrderId reason), next) ∧
      next.orders.values = store.orders.values ++ [rejectedOrder intent draws venueOrderId reason] ∧
      next.intents.values = store.intents.values ++ [intent] ∧
      next.deployments = store.deployments := by
  unfold submitIntent
  obtain ⟨failure, hrefused⟩ | ⟨-, hinserted⟩ := store.insertLeasedIntent_cases fence intent
  · rw [hrefused]
    exact .inl ⟨failure, rfl⟩
  · rw [hinserted]
    right
    have hplaced : (saveOrder { store with intents := store.intents.set intent.id intent }
        (order { intent, orderId := draws.orderId })).2 =
        { store with
          intents := store.intents.set intent.id intent
          orders := store.orders.set draws.orderId
            (order { intent, orderId := draws.orderId }) } := by
      refine saveOrder_of_new { store with intents := store.intents.set intent.id intent } ?_ rfl
      intro stored hstored
      show stored.clientOrderId ≠ intent.clientOrderId
      rw [hclient]
      exact hfresh.client stored hstored
    have hsettled := saveOrder_of_last
      { store with intents := store.intents.set intent.id intent }
      (Submission.order { intent, orderId := draws.orderId })
      (rejectedOrder intent draws venueOrderId reason) hfresh.order rfl
      (by
        intro stored hstored
        show stored.clientOrderId ≠ intent.clientOrderId
        rw [hclient]
        exact hfresh.client stored hstored) rfl rfl
    refine ⟨_, rfl, ?_⟩
    rw [hplaced]
    refine ⟨hsettled.1, ?_, hsettled.2.1⟩
    refine (congrArg Dict.values hsettled.2.2).trans ?_
    exact Dict.values_set_of_absent (hintent ▸ hfresh.intent) intent

/-- One more protective order, newer than all, heads the book's list. -/
theorem storedNewest_append {intent : OrderIntent}
    (horders : next.orders.values = store.orders.values ++ [order])
    (hintents : next.intents.values = store.intents.values ++ [intent])
    (hintent : intent.deploymentId = deploymentId) (horder : order.deploymentId = deploymentId)
    (hpurpose : intent.purpose ∈ purposes) (hown : order.intentId = intent.id)
    (hother : ∀ stored ∈ store.orders.values, stored.intentId ≠ intent.id)
    (hnewest : ∀ stored ∈ storedNewest store deploymentId purposes, stored.createdAt <
      order.createdAt) :
    storedNewest next deploymentId purposes = order :: storedNewest store deploymentId purposes := by
  have hids : (((store.intents.values ++ [intent]).filter
        (fun row => row.deploymentId = deploymentId)).filter
        (fun row => row.purpose ∈ purposes)).map (·.id) =
      ((store.intents.values.filter (fun row => row.deploymentId = deploymentId)).filter
        (fun row => row.purpose ∈ purposes)).map (·.id) ++ [intent.id] := by
    simp [filter_append, hintent, hpurpose]
  have hrows : ∀ (ids : List Uuid),
      ((store.orders.values ++ [order]).filter (fun row => row.deploymentId = deploymentId)).filter
        (fun row => row.intentId ∈ ids ++ [intent.id]) =
      (store.orders.values.filter (fun row => row.deploymentId = deploymentId)).filter
        (fun row => row.intentId ∈ ids) ++ [order] := by
    intro ids
    rw [filter_append, filter_append]
    congr 1
    · refine filter_congr ?_
      intro row hrow
      have hne := hother row (mem_of_mem_filter hrow)
      simp [hne]
    · simp [horder, hown]
  unfold storedNewest at hnewest ⊢
  dsimp only at hnewest ⊢
  rw [horders, hintents, hids, hrows]
  refine insertionSort_concat_newest ?_
  intro older holder
  exact hnewest older ((mem_insertionSort _).mpr holder)

/-! ## One cycle -/

/-- The unchanged live position, its book, and the venue's reason. -/
structure ProtectedBook where
  deploymentId : Uuid
  position : Position
  reason : Option String

namespace ProtectedBook

variable (book : ProtectedBook)

def reasonText : String := orBlank (book.reason.getD "") "rejected"

def newest (store : MemoryStore) : List Order :=
  storedNewest store book.deploymentId (protectivePurposes book.position)

/-- A rejected order of the position's geometry, for the venue's reason. -/
def Identical (order : Order) : Prop :=
  identical (sameGeometry book.position) book.reasonText order = true

/-- The identical rejections standing against the position. -/
def standing (store : MemoryStore) : Nat :=
  streak (sameGeometry book.position) book.reasonText (book.newest store)

def detail (store : MemoryStore) : Option String :=
  (store.deployments.get? book.deploymentId).bind (·.mismatchDetail)

variable {book}

/-- A run of identical rejections is what `bracket_rejection` reports. -/
theorem bracketRejection_of_newest {store : MemoryStore} {head : Order}
    (hread : store.getDeployment book.deploymentId = .ok snapshot)
    (hnewest : book.newest store = head :: rest) (hhead : book.Identical head) :
    bracketRejection snapshot book.position =
      some ⟨protectiveLabel book.position, book.standing store, book.reasonText, head.updatedAt⟩ := by
  unfold standing
  rw [hnewest]
  refine rejectionRun_of_head ?_ hhead
  rw [newestFirst_of_read hread]
  exact hnewest

/-- A write of the book's row that keeps orders and intents. -/
structure RowWrite (book : ProtectedBook) (store next : MemoryStore) (detail : Option String) :
    Prop where
  row : ∃ row, HasRow next book.deploymentId row ∧ row.mismatchDetail = detail
  newest : book.newest next = book.newest store

section

variable {store : MemoryStore}

theorem RowWrite.detail_eq {detail : Option String}
    (h : book.RowWrite store next detail) : book.detail next = detail := by
  obtain ⟨row, hrow, hdetail⟩ := h.row
  unfold ProtectedBook.detail
  rw [hrow.1]
  exact hdetail

theorem rowWrite_saveDeployment (row : Deployment)
    (hrow : HasRow store book.deploymentId current) (hid : row.id = book.deploymentId)
    (hexpected : expected = none ∨ expected = some current.revision) :
    ∃ saved, (store.saveDeployment row expected).1 = .ok saved ∧
      book.RowWrite store (store.saveDeployment row expected).2 row.mismatchDetail := by
  obtain ⟨next, hsave, hnext, horders, hintents⟩ := saveDeployment_of_row hrow hid hexpected
  rw [hsave]
  exact ⟨_, rfl, ⟨_, hnext, rfl⟩, storedNewest_congr horders hintents _ _⟩

theorem rowWrite_pause (hrow : HasRow store book.deploymentId current)
    (hid : snapshot.deployment.id = book.deploymentId) (detail : String) (now : Time) :
    (∃ read, (pause store snapshot detail now).1 = .ok read) ∧
      book.RowWrite store (pause store snapshot detail now).2 (some detail) := by
  obtain ⟨saved, hsaved, hwrite⟩ := rowWrite_saveDeployment
    (pausedRow snapshot.deployment detail now) hrow hid (.inl rfl)
  unfold pause saveAndRead
  obtain ⟨result, next, hsave⟩ : ∃ result next,
      store.saveDeployment (pausedRow snapshot.deployment detail now) = (result, next) := ⟨_, _, rfl⟩
  rw [hsave] at hsaved hwrite ⊢
  obtain rfl : result = .ok saved := hsaved
  refine ⟨?_, hwrite⟩
  obtain ⟨row, hnext, -⟩ := hwrite.row
  obtain ⟨read, hread, -⟩ := getDeployment_of_row hnext.1
  refine ⟨read, ?_⟩
  show next.getDeployment snapshot.deployment.id = .ok read
  rw [hid, hread]

/-- A standing run writes its own detail, or finds it written. -/
theorem rowWrite_pauseBracketRejected (hrow : HasRow store book.deploymentId snapshot.deployment)
    (hrejection : bracketRejection snapshot book.position = some rejection) (now : Time) :
    book.RowWrite store (pauseBracketRejected store snapshot book.position now).2
      (some rejection.detail) := by
  unfold pauseBracketRejected
  rw [hrejection]
  show book.RowWrite store (pauseRejected store snapshot rejection now).2 (some rejection.detail)
  unfold pauseRejected
  split
  next hwritten => exact ⟨⟨snapshot.deployment, hrow, hwritten.1⟩, rfl⟩
  · obtain ⟨⟨read, hread⟩, hwrite⟩ := rowWrite_pause hrow hrow.2 rejection.detail now
    obtain ⟨result, next, hpause⟩ : ∃ result next,
        pause store snapshot rejection.detail now = (result, next) := ⟨_, _, rfl⟩
    rw [hpause] at hread hwrite ⊢
    obtain rfl : result = .ok read := hread
    cases rejection.retryAt with
    | none | some => exact hwrite

end

/-- A cycle held back has a standing run. -/
theorem exists_rejection_of_heldBack {position : Position} {now : Time}
    (h : heldBack snapshot position now = some true) :
    ∃ rejection, bracketRejection snapshot position = some rejection := by
  unfold heldBack at h
  split at h
  · cases h
  next rejection hrejection => exact ⟨rejection, hrejection⟩

/-- Nothing holds the next submit back. -/
def Unlatched (book : ProtectedBook) (snapshot : DeploymentSnapshot) (now : Time) : Prop :=
  heldBack snapshot book.position now = some false

/-- What a cycle can do to the store: write a detail, or leave one rejected submit more. -/
inductive CycleEffect (book : ProtectedBook) (store : MemoryStore) (snapshot : DeploymentSnapshot)
    (draws : CycleDraws) (outcome : CycleOutcome) : Prop where
  | held (detail : Option String) (hsent : outcome.sent = none)
      (hwrite : book.RowWrite store outcome.store detail)
      (hdetail : detail = book.detail store ∨ isRejectionDetail detail = true ∨
        book.Unlatched snapshot draws.checkedAt)
  | sent (intent : OrderIntent) (order : Order) (hsent : outcome.sent = some intent)
      (hcreated : intent.createdAt = draws.createdAt)
      (hopen : book.Unlatched snapshot draws.checkedAt)
      (hrow : ∃ row, HasRow outcome.store book.deploymentId row)
      (hnewest : book.newest outcome.store = order :: book.newest store)
      (hidentical : book.Identical order) (hat : order.createdAt = draws.createdAt)
      (hsettled : order.updatedAt = draws.settledAt)
      (hdetail : isRejectionDetail (book.detail outcome.store) = true)

variable {product : ProtectedProduct}

theorem identical_rejectedOrder {price : Decimal}
    (hprice : protectivePrice book.position product = .ok price) (deploymentId : Uuid)
    (candleStartsAt : Time) (draws : CycleDraws) (venueOrderId : String) :
    book.Identical (rejectedOrder
      (protectiveIntent deploymentId book.position product price candleStartsAt draws) draws
      venueOrderId book.reason) := by
  have hgeometry : sameGeometry book.position (rejectedOrder
      (protectiveIntent deploymentId book.position product price candleStartsAt draws) draws
      venueOrderId book.reason) = true := by
    unfold sameGeometry
    cases htarget : book.position.targetPrice with
    | none => simp [rejectedOrder, settledOrder, rejectedAnswer, Submission.order,
        protectiveIntent, htarget]
    | some target =>
      unfold protectivePrice at hprice
      rw [htarget] at hprice
      obtain rfl : target = price := Except.ok.inj hprice
      simp [rejectedOrder, settledOrder, rejectedAnswer, order, protectiveIntent]
  exact decide_eq_true ⟨rfl, hgeometry, rfl⟩

theorem purpose_mem (hproduct : product.productId = book.position.productId) (deploymentId : Uuid)
    (price : Decimal) (candleStartsAt : Time) (draws : CycleDraws) :
    (protectiveIntent deploymentId book.position product price candleStartsAt draws).purpose ∈
      protectivePurposes book.position := by
  unfold protectiveIntent protectivePurposes
  rw [hproduct]
  split
  · simp
  · simp

variable {store : MemoryStore} {snapshot : DeploymentSnapshot} {product : ProtectedProduct}
  {draws : CycleDraws}

variable (hrow : HasRow store book.deploymentId snapshot.deployment)
  (hfresh : FreshDraws store draws) (hproduct : product.productId = book.position.productId)
include hrow hfresh hproduct

theorem sendBracket_effect (hopen : book.Unlatched snapshot draws.checkedAt)
    (hnewer : ∀ stored ∈ book.newest store, stored.createdAt < draws.createdAt)
    (candleStartsAt : Time) (fence : Option (Uuid × String)) (venueOrderId : String) :
    book.CycleEffect store snapshot draws (sendBracket store snapshot book.position product
      candleStartsAt fence draws (rejectedAnswer venueOrderId book.reason)) := by
  have hkept : book.RowWrite store store (book.detail store) :=
    ⟨⟨snapshot.deployment, hrow, by unfold ProtectedBook.detail; rw [hrow.1]; rfl⟩, rfl⟩
  unfold sendBracket
  cases hprice : protectivePrice book.position product with
  | error => exact .held _ rfl hkept (.inl rfl)
  | ok price =>
    dsimp only
    split
    · have hwrite := (rowWrite_pause hrow hrow.2 stopLimitPriceDetail draws.pausedAt).2
      exact .held _ rfl hwrite (.inr (.inr hopen))
    · have hid : snapshot.deployment.id = book.deploymentId := hrow.2
      obtain ⟨failure, hrefused⟩ | ⟨next, hsubmit, horders, hintents, hrows⟩ :=
        submitIntent_rejected (protectiveIntent snapshot.deployment.id book.position product price
          candleStartsAt draws) hfresh rfl rfl fence venueOrderId book.reason
      · rw [hrefused]
        exact .held _ rfl hkept (.inl rfl)
      · rw [hsubmit]
        dsimp only
        have hidentical := identical_rejectedOrder hprice snapshot.deployment.id candleStartsAt draws
          venueOrderId
        have hnewest : book.newest next = rejectedOrder (protectiveIntent snapshot.deployment.id
            book.position product price candleStartsAt draws) draws venueOrderId book.reason ::
            book.newest store :=
          storedNewest_append horders hintents hid hid
            (purpose_mem hproduct _ _ _ _) rfl hfresh.owner hnewer
        have hnext : HasRow next book.deploymentId snapshot.deployment := by
          refine ⟨?_, hid⟩
          rw [hrows]
          exact hrow.1
        obtain ⟨current, hread, hcurrent⟩ := getDeployment_of_row hnext.1
        have hrejection := bracketRejection_of_newest hread hnewest hidentical
        have hwrite := rowWrite_pauseBracketRejected (hcurrent ▸ hnext) hrejection draws.pausedAt
        have hsettle : settleBracket next snapshot.deployment.id book.position .rejected
            draws.pausedAt = pauseBracketRejected next current book.position draws.pausedAt := by
          unfold settleBracket
          rw [hid, hread]
        have hstatus : (rejectedOrder (protectiveIntent snapshot.deployment.id book.position product
            price candleStartsAt draws) draws venueOrderId book.reason).status = .rejected := rfl
        rw [hstatus, hsettle]
        obtain ⟨row, hwritten, -⟩ := hwrite.row
        refine .sent _ _ rfl rfl hopen ⟨row, hwritten⟩ (hwrite.newest.trans hnewest) hidentical rfl rfl ?_
        rw [hwrite.detail_eq]
        exact isRejectionDetail_detail _

theorem submitLiveBracket_effect
    (hnewer : book.Unlatched snapshot draws.checkedAt → ∀ stored ∈ book.newest store,
      stored.createdAt < draws.createdAt) (candleStartsAt : Time) (fence : Option (Uuid × String))
    (venueOrderId : String) :
    book.CycleEffect store snapshot draws (submitLiveBracket store snapshot book.position product
      candleStartsAt fence draws (rejectedAnswer venueOrderId book.reason)) := by
  unfold submitLiveBracket
  cases hheld : heldBack snapshot book.position draws.checkedAt with
  | none =>
    refine .held (book.detail store) rfl ⟨⟨snapshot.deployment, hrow, ?_⟩, rfl⟩ (.inl rfl)
    unfold ProtectedBook.detail
    rw [hrow.1]
    rfl
  | some held =>
    cases held with
    | true =>
      obtain ⟨rejection, hrejection⟩ := exists_rejection_of_heldBack hheld
      have hwrite := rowWrite_pauseBracketRejected hrow hrejection draws.pausedAt
      exact .held _ rfl hwrite (.inr (.inl (isRejectionDetail_detail rejection)))
    | false =>
      exact sendBracket_effect hrow hfresh hproduct hheld (hnewer hheld) candleStartsAt fence
        venueOrderId

end ProtectedBook

end Thytrader.Execution
