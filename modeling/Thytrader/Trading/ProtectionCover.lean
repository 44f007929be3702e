import Thytrader.Trading.FillProjection
import Thytrader.Trading.Protection
import Mathlib.Algebra.Order.BigOperators.Group.List
import Mathlib.Data.Finset.Lattice.Lemmas

/-!
# What a covered live book guarantees

A live book is reported `covered` only on stop orders that are really there. Folding the rows by
identity never invents an open row (`dedupe_inv`), a confirmed hit has passed every check
(`classifyOrder_confirmed`), and the total is the sum of the hits (`foldHits_confirmed`):
`bookProtectionEvidence_sound`.
-/

namespace Thytrader.Trading

open Lib List

variable {now : Time} {position : Position}

/-! ## Folding rows by identity -/

variable (snapshot : DeploymentSnapshot)

theorem coverIdentity_conflicted (order : Order) :
    coverIdentity snapshot (conflicted order) = coverIdentity snapshot order := rfl

/-- Two rows of one identity fold to one of them, or to a row that is unknown. -/
theorem preferDuplicate_cases (left right : Order) :
    preferDuplicate left right = left ∨ preferDuplicate left right = right ∨
    preferDuplicate left right = conflicted left ∨
    preferDuplicate left right = conflicted right := by
  have hsmaller : ∀ smaller, smaller = (if remaining left ≤ remaining right then left else right) →
      smaller = left ∨ smaller = right := by
    intro smaller h
    rw [h]
    split
    · exact .inl rfl
    · exact .inr rfl
  have hconflict : ∀ smaller,
      smaller = (if remaining left ≤ remaining right then left else right) →
      conflicted smaller = left ∨ conflicted smaller = right ∨
        conflicted smaller = conflicted left ∨ conflicted smaller = conflicted right := by
    intro smaller h
    rcases hsmaller smaller h with rfl | rfl
    · exact .inr (.inr (.inl rfl))
    · exact .inr (.inr (.inr rfl))
  unfold preferDuplicate
  dsimp only
  split
  · exact hconflict _ rfl
  · split
    next leftTime rightTime _ _ =>
      split
      · split
        · rcases hsmaller _ rfl with h | h
          · exact .inl h
          · exact .inr (.inl h)
        · exact hconflict _ rfl
      · by_cases hnewer : rightTime < leftTime
        · simp only [hnewer, if_true]
          split
          · exact hconflict _ rfl
          · split
            · exact hconflict _ rfl
            · exact .inl rfl
        · simp only [hnewer, if_false]
          split
          · exact hconflict _ rfl
          · split
            · exact hconflict _ rfl
            · exact .inr (.inl rfl)
    · exact hconflict _ rfl

/-- Every chosen row stands under its own identity and is a row of the product
or unknown. -/
def DedupeInv (snapshot : DeploymentSnapshot) (rows : List Order)
    (chosen : Dict CoverIdentity Order) : Prop :=
  ∀ key order, (key, order) ∈ chosen.entries →
    coverIdentity snapshot order = key ∧ (order ∈ rows ∨ order.status = .unknown)

variable {order : Order} {venueIdentity : Bool} {bookOk : Option Bool} {closing : OrderSide}

theorem dedupeStep_inv {snapshot : DeploymentSnapshot} {rows : List Order}
    {chosen : Dict CoverIdentity Order × Bool} (hinv : DedupeInv snapshot rows chosen.1)
    (hrow : order ∈ rows) :
    DedupeInv snapshot rows (dedupeStep snapshot chosen order).1 := by
  have hset : ∀ value, coverIdentity snapshot value = coverIdentity snapshot order →
      (value ∈ rows ∨ value.status = .unknown) →
      DedupeInv snapshot rows (chosen.1.set (coverIdentity snapshot order) value) := by
    intro value hidentity hvalue key other hmem
    rcases Dict.mem_set_iff.mp hmem with heq | ⟨_, hold⟩
    · cases heq
      exact ⟨hidentity, hvalue⟩
    · exact hinv key other hold
  unfold dedupeStep
  dsimp only
  split
  · exact hset order rfl (.inl hrow)
  next prior hprior =>
    obtain ⟨hidentity, hkept⟩ := hinv _ prior (Dict.get?_eq_some_iff.mp hprior)
    rcases preferDuplicate_cases prior order with h | h | h | h
    · rw [h]
      exact hset prior hidentity hkept
    · rw [h]
      exact hset order rfl (.inl hrow)
    · rw [h]
      exact hset _ ((coverIdentity_conflicted snapshot prior).trans hidentity) (.inr rfl)
    · rw [h]
      exact hset _ (coverIdentity_conflicted snapshot order) (.inr rfl)

theorem dedupe_inv (rows rest : List Order) (hrest : ∀ order ∈ rest, order ∈ rows)
    (chosen : Dict CoverIdentity Order × Bool) (hinv : DedupeInv snapshot rows chosen.1) :
    DedupeInv snapshot rows (rest.foldl (dedupeStep snapshot) chosen).1 := by
  induction rest generalizing chosen with
  | nil => exact hinv
  | cons order _ ih =>
    refine ih (fun other hother => hrest other (mem_cons_of_mem _ hother)) _ ?_
    exact dedupeStep_inv hinv (hrest order (mem_cons_self ..))

variable (productId : String)

/-- The surviving rows have pairwise distinct identities, and each one that is
not unknown is a recorded row of the product. -/
theorem dedupedActive_spec :
    (((dedupedActive snapshot productId).1).map (coverIdentity snapshot)).Nodup ∧
    ∀ order ∈ (dedupedActive snapshot productId).1, order.status ≠ .unknown →
      order ∈ snapshot.orders ∧
        resolvedProductId order.productId snapshot.deployment = productId := by
  have hrows : ∀ order ∈ orderedProductRows snapshot productId, order ∈ snapshot.orders ∧
      resolvedProductId order.productId snapshot.deployment = productId := by
    intro order horder
    unfold orderedProductRows at horder
    rw [mem_insertionSort, mem_filter, decide_eq_true_eq] at horder
    exact horder
  have hinv := dedupe_inv snapshot (orderedProductRows snapshot productId)
    (orderedProductRows snapshot productId) (fun _ h => h) (Dict.empty, false)
    (fun _ _ h => absurd h (by simp [Dict.empty]))
  have hkeys : ((dedupedActive snapshot productId).1).map (coverIdentity snapshot) =
      ((orderedProductRows snapshot productId).foldl (dedupeStep snapshot)
        (Dict.empty, false)).1.entries.map Prod.fst := by
    unfold dedupedActive Dict.values
    rw [map_map]
    exact map_congr_left (fun entry hentry => (hinv entry.1 entry.2 hentry).1)
  refine ⟨?_, ?_⟩
  · rw [hkeys]
    exact Dict.nodup _
  · intro order horder hknown
    obtain ⟨entry, hentry, rfl⟩ := mem_map.mp horder
    rcases (hinv entry.1 entry.2 hentry).2 with hrow | hunknown
    · exact hrows _ hrow
    · exact absurd hunknown hknown

/-! ## Confirmed hits -/

theorem observationFlags_empty {observed : Option Time}
    (h : observationFlags observed now venueIdentity = ∅) :
    venueIdentity = true ∧
      ∃ instant, observed = some instant ∧ instant ≤ now ∧ now - instant ≤ localEvidenceMaxAge := by
  unfold observationFlags at h
  rw [Finset.union_eq_empty] at h
  obtain ⟨hidentity, hage⟩ := h
  refine ⟨?_, ?_⟩
  · by_contra hmissing
    rw [if_neg hmissing] at hidentity
    exact absurd hidentity (by simp)
  · split at hage
    · exact absurd hage (by simp)
    next instant =>
      split at hage
      · exact absurd hage (by simp)
      next hpast =>
        split at hage
        · exact absurd hage (by simp)
        next hfresh => exact ⟨instant, rfl, not_lt.mp hpast, not_lt.mp hfresh⟩

theorem geometryFlags_empty (h : geometryFlags order position bookOk = ∅) :
    order.stopTriggerPrice = some position.stopPrice := by
  unfold geometryFlags at h
  split at h
  · exact absurd h (by simp)
  · split at h
    · unfold missingTriggerFlags at h
      split at h <;> exact absurd h (by simp)
    next trigger htrigger =>
      split at h
      · unfold priceMismatchFlags at h
        split at h <;> exact absurd h (by simp)
      next hprice => rw [htrigger, not_not.mp hprice]

/-- What `_classify_order` checked before it confirmed an order. -/
structure StopCover (order : Order) (position : Position) (now : Time) : Prop where
  status : order.status = .open
  side : order.side = closingSide position
  kind : order.kind.isVenueProtection = true
  trigger : order.stopTriggerPrice = some position.stopPrice
  observed : ∃ instant, order.venueObservedAt = some (.aware instant) ∧ instant ≤ now ∧
    now - instant ≤ localEvidenceMaxAge

theorem aware_eq_some {stamp : Option Stamp} {instant : Time} (h : aware stamp = some instant) :
    stamp = some (.aware instant) := by
  unfold aware at h
  split at h
  next other => rw [Option.some.inj h]
  · exact absurd h (by simp)

theorem classifyOrder_confirmed {purposes : Dict Uuid IntentPurpose}
    (h : (classifyOrder order position (closingSide position) bookOk purposes venueIdentity
      now).role = .confirmed) :
    StopCover order position now ∧ venueIdentity = true ∧
    (classifyOrder order position (closingSide position) bookOk purposes venueIdentity
      now).remaining = remaining order := by
  unfold classifyOrder at h ⊢
  dsimp only at h ⊢
  split at h
  · exact absurd h (by simp)
  next hactive =>
    split at h
    · cases h
    next hside =>
      split at h
      · cases h
      next htarget =>
        split at h
        · split at h <;> cases h
        next hkind =>
          split at h
          · cases h
          next hstatus =>
            split at h
            · simp only [unreadableRole] at h
              split at h
              · cases h
              · split at h <;> cases h
            next hgeometry =>
              split at h
              · cases h
              next hremaining =>
                rw [if_neg hactive, if_neg hside, if_neg htarget, if_neg hkind, if_neg hstatus,
                  if_neg hgeometry, if_neg hremaining]
                obtain ⟨hflags, h⟩ := of_ite_ne h nofun
                -- an OPEN order without an observation flag is the one confirmed case
                have hopen : order.status = .open := by
                  unfold openRole at h
                  split at h
                  next hstatus' => exact hstatus'
                  all_goals cases h
                have hempty : observationFlags (venueObserved order) now venueIdentity = ∅ := by
                  by_contra hne
                  exact hflags ⟨hne, h⟩
                obtain ⟨hidentity, instant, hobserved, hpast, hfresh⟩ :=
                  observationFlags_empty hempty
                rw [venueObserved, if_neg hstatus] at hobserved
                exact ⟨⟨hopen, not_not.mp hside, by simpa using hkind,
                  geometryFlags_empty (not_not.mp hgeometry),
                  ⟨instant, aware_eq_some hobserved, hpast, hfresh⟩⟩, hidentity, rfl⟩

/-! ## The confirmed total -/

theorem foldStep_confirmed (hits : List Hit) (fold : Fold) :
    (hits.foldl foldStep fold).confirmed =
      fold.confirmed + ((hits.filter (fun hit => hit.role = .confirmed)).map (·.remaining)).sum := by
  induction hits generalizing fold with
  | nil => simp
  | cons hit _ ih =>
    rw [foldl_cons, ih, filter_cons]
    by_cases hrole : hit.role = .confirmed
    · simp only [foldStep, hrole, if_true, decide_true, map_cons, sum_cons]
      ring
    · simp only [foldStep, hrole, if_false, decide_false, Bool.false_eq_true]

theorem foldHits_confirmed (hits : List Hit) (duplicate : Bool) :
    (foldHits hits duplicate).confirmed =
      ((hits.filter (fun hit => hit.role = .confirmed)).map (·.remaining)).sum := by
  show (hits.foldl foldStep _).confirmed = _
  rw [foldStep_confirmed]
  exact zero_add _

theorem remaining_nonneg (order : Order) : 0 ≤ remaining order := by
  unfold remaining
  dsimp only
  split
  next h => exact h.le
  · exact le_refl 0

/-- Recorded stop orders of one product, one per venue identity, that each cover
`position` at `now`. -/
structure StopOrders (snapshot : DeploymentSnapshot) (productId : String) (position : Position)
    (now : Time) (orders : List Order) : Prop where
  distinct : (orders.map (coverIdentity snapshot)).Nodup
  venue : ∀ order ∈ orders, (coverIdentity snapshot order).isVenue = true
  recorded : ∀ order ∈ orders, order ∈ snapshot.orders
  product : ∀ order ∈ orders, resolvedProductId order.productId snapshot.deployment = productId
  stops : ∀ order ∈ orders, StopCover order position now

theorem liveHits_confirmed (position : Position) (now : Time) :
    ∃ orders : List Order, StopOrders snapshot productId position now orders ∧
      ((liveHits snapshot productId position now).filter
        (fun hit => hit.role = .confirmed)).map (·.remaining) = orders.map remaining := by
  obtain ⟨hnodup, hrecorded⟩ := dedupedActive_spec snapshot productId
  let hit := fun order => classifyOrder order position (closingSide position)
    (bookStopOnProtectiveSide position) (intentPurposes snapshot)
    (coverIdentity snapshot order).isVenue now
  let orders := (dedupedActive snapshot productId).1.filter
    (fun order => (hit order).role = .confirmed)
  have hconfirmed : ∀ order ∈ orders, order ∈ (dedupedActive snapshot productId).1 ∧
      StopCover order position now ∧ (coverIdentity snapshot order).isVenue = true ∧
      (hit order).remaining = remaining order := by
    intro order horder
    rw [mem_filter, decide_eq_true_eq] at horder
    exact ⟨horder.1, classifyOrder_confirmed horder.2⟩
  have hrow : ∀ order ∈ orders, order ∈ snapshot.orders ∧
      resolvedProductId order.productId snapshot.deployment = productId := by
    intro order horder
    obtain ⟨hmem, hcover, _⟩ := hconfirmed order horder
    refine hrecorded order hmem ?_
    rw [hcover.status]
    decide
  refine ⟨orders, ⟨hnodup.sublist (filter_sublist.map _),
    fun order horder => (hconfirmed order horder).2.2.1,
    fun order horder => (hrow order horder).1, fun order horder => (hrow order horder).2,
    fun order horder => (hconfirmed order horder).2.1⟩, ?_⟩
  unfold liveHits
  rw [filter_map, map_map]
  exact map_congr_left (fun order horder => (hconfirmed order horder).2.2.2)

/-! ## The guarantee -/

def QuantitiesBalance (evidence : ProtectionEvidence) : Prop :=
  (evidence.requiredQuantity = none ∧ evidence.coveredQuantity = none ∧
      evidence.uncoveredQuantity = none ∧ evidence.status = .unknown) ∨
    ∃ required covered uncovered, evidence.requiredQuantity = some required ∧
      evidence.coveredQuantity = some covered ∧ evidence.uncoveredQuantity = some uncovered ∧
      covered + uncovered = required ∧ 0 ≤ covered ∧ 0 ≤ uncovered

theorem evidenceFromFold_balance {fold : Fold} (hquantity : 0 < position.quantity)
    (hconfirmed : 0 ≤ fold.confirmed) :
    QuantitiesBalance (evidenceFromFold position closing fold now) := by
  refine .inr ⟨position.quantity, _, _, rfl, rfl, rfl, by ring, ?_, ?_⟩
  · split
    · exact hconfirmed
    · exact hquantity.le
  · split
    next h => exact sub_nonneg.mpr h.le
    · exact (sub_self position.quantity).ge

theorem evidenceFromFold_covered {fold : Fold}
    (h : (evidenceFromFold position closing fold now).status = .covered) :
    position.quantity ≤ fold.confirmed := by
  by_contra hshort
  have hless := not_le.mp hshort
  simp only [evidenceFromFold, liveStatus, if_pos hless, if_neg hshort] at h
  split at h <;> cases h

theorem liveEvidence_spec (now : Time) (hquantity : 0 < position.quantity) :
    ((liveEvidence snapshot productId position now).status = .covered →
      ∃ orders, StopOrders snapshot
          (resolvedProductId (orBlank productId position.productId) snapshot.deployment) position
          now orders ∧
        position.quantity ≤ (orders.map remaining).sum) ∧
    QuantitiesBalance (liveEvidence snapshot productId position now) := by
  unfold liveEvidence
  generalize resolvedProductId (orBlank productId position.productId) snapshot.deployment = scope
  obtain ⟨orders, horders, htotal⟩ := liveHits_confirmed snapshot scope position now
  have hconfirmed := foldHits_confirmed (liveHits snapshot scope position now)
    (dedupedActive snapshot scope).2
  rw [htotal] at hconfirmed
  have hnonneg : 0 ≤ (orders.map remaining).sum := by
    refine sum_nonneg (fun value hvalue => ?_)
    obtain ⟨order, _, rfl⟩ := mem_map.mp hvalue
    exact remaining_nonneg order
  refine ⟨fun hstatus => ⟨orders, horders, ?_⟩, ?_⟩
  · rw [← hconfirmed]
    exact evidenceFromFold_covered hstatus
  · exact evidenceFromFold_balance hquantity (by rw [hconfirmed]; exact hnonneg)

/-- When the evidence of a live book says `covered`, recorded orders of distinct venue identities,
all open stop orders of the book's product on its closing side at its stop price, all received
within the evidence age, together reach the position. Covered and uncovered quantity are always
non-negative and add up to the required one. -/
theorem bookProtectionEvidence_sound {snapshot : DeploymentSnapshot} {productId : String}
    {position : Option Position} {now : Time} {evidence : ProtectionEvidence}
    (h : bookProtectionEvidence snapshot productId position (.aware now) = .ok evidence) :
    (snapshot.deployment.mode = .live → evidence.status = .covered →
      ∃ book, position = some book ∧ ∃ orders : List Order,
        StopOrders snapshot
          (resolvedProductId (orBlank productId book.productId) snapshot.deployment) book now
          orders ∧
        book.quantity ≤ (orders.map remaining).sum) ∧
    QuantitiesBalance evidence := by
  have hflat : QuantitiesBalance (flatEvidence now) :=
    .inr ⟨0, 0, 0, rfl, rfl, rfl, by norm_num, le_refl 0, le_refl 0⟩
  simp only [bookProtectionEvidence, aware] at h
  generalize (if bookInventoryReasons snapshot productId = [] ∧ position = none ∧
    snapshot.accountingComplete = false then [Reason.inventoryEvidenceIncomplete]
    else bookInventoryReasons snapshot productId) = reasons at h
  split at h
  · rw [← Except.ok.inj h]
    exact ⟨fun _ hstatus => absurd hstatus (by simp [unresolvedEvidence]),
      .inl ⟨rfl, rfl, rfl, rfl⟩⟩
  · split at h
    · rw [← Except.ok.inj h]
      exact ⟨fun _ hstatus => absurd hstatus (by simp [flatEvidence]), hflat⟩
    next book =>
      split at h
      · rw [← Except.ok.inj h]
        exact ⟨fun _ hstatus => absurd hstatus (by simp [flatEvidence]), hflat⟩
      next hquantity =>
        split at h
        next hpaper =>
          rw [← Except.ok.inj h]
          refine ⟨fun hlive => absurd (hlive.symm.trans hpaper) (by simp), ?_⟩
          exact .inr ⟨book.quantity, book.quantity, 0, rfl, rfl, rfl, by ring,
            (not_le.mp hquantity).le, le_refl 0⟩
        · rw [← Except.ok.inj h]
          obtain ⟨hcovered, hbalance⟩ :=
            liveEvidence_spec snapshot productId now (not_le.mp hquantity)
          exact ⟨fun _ hstatus => ⟨book, rfl, hcovered hstatus⟩, hbalance⟩

def sampleStop (id : Uuid) (venueOrderId : String) : Order :=
  { sampleOrder id .sell with
    kind := .stopLimit
    quantity := 1
    price := some 89
    stopTriggerPrice := some 90
    venueOrderId := some venueOrderId
    venueObservedAt := some (.aware 5) }

/-- The live sample book: a long of two units behind three rows of two stops. -/
def sampleLiveSnapshot : DeploymentSnapshot :=
  { sampleSnapshot 2 with
    deployment := { sampleDeployment with mode := .live }
    orders := [sampleStop 21 "s1", sampleStop 22 "s2", sampleStop 23 "s2"] }

/-- Two stops of one unit cover the long of two; the repeated row counts once. -/
theorem bookProtectionEvidence_sound_twoStops :
    ∃ book evidence, (sampleSnapshot 2).positions = [book] ∧
      bookProtectionEvidence sampleLiveSnapshot "" (some book) (.aware 9) = .ok evidence ∧
      evidence.status = .covered ∧
      (∃ orders, StopOrders sampleLiveSnapshot "BTC-USD" book 9 orders ∧
        2 ≤ (orders.map remaining).sum) ∧
      QuantitiesBalance evidence := by
  have hrun : bookProtectionEvidence sampleLiveSnapshot "" ((sampleSnapshot 2).positions.head?)
      (.aware 9) = .ok (liveEvidence sampleLiveSnapshot ""
        ((sampleSnapshot 2).positions.head (by simp [sampleSnapshot])) 9) := by decide +kernel
  have hstatus : (liveEvidence sampleLiveSnapshot ""
      ((sampleSnapshot 2).positions.head (by simp [sampleSnapshot])) 9).status = .covered := by
    decide +kernel
  obtain ⟨hcovered, hbalance⟩ := bookProtectionEvidence_sound hrun
  obtain ⟨book, hbook, orders, horders, henough⟩ := hcovered rfl hstatus
  have hsame := Option.some.inj hbook
  subst hsame
  exact ⟨_, _, rfl, hrun, hstatus, ⟨orders, horders, henough⟩, hbalance⟩

end Thytrader.Trading
