import Thytrader.Lib.History
import Thytrader.Trading.ProtectionCover

/-!
# Row order and protection evidence

`_deduped_active` folds the rows of one venue identity oldest receipt first. The sort is
stable, so rows with equal receipts are merged in the order the snapshot lists them, and
`_prefer_duplicate` is neither commutative nor associative on them: the first of two
equally fresh rows decides whether the remaining quantity grew since the last read.

`receiptRule` states `_prefer_duplicate` as a history rule, and the exact condition for
order independence is `HistoryRule.Forces` on the rows of each identity (`rowOrderFree_iff`).
-/

namespace Thytrader.Trading

open Lib List HistoryRule

/-! ## Receipts as a history -/

/-- The sort key of an order row: a missing receipt counts as the earliest. -/
def receiptAge (order : Order) : Time := (venueObserved order).getD datetimeMin

/-- Rows of one identity clash: other geometry or quantity, a missing receipt, another status at one
receipt, a terminal order that reopens. -/
def receiptClash (a b : Order) : Prop :=
  orderGeometry a ≠ orderGeometry b ∨ a.quantity ≠ b.quantity ∨ venueObserved a = none ∨
    venueObserved b = none ∨ (receiptAge a = receiptAge b ∧ a.status ≠ b.status) ∨
    (receiptAge a < receiptAge b ∧ a.status.active = false ∧ b.status.active = true)

instance : DecidableRel receiptClash := fun _ _ => inferInstanceAs (Decidable (_ ∨ _))

/-- `_prefer_duplicate` as a history rule: fresher rows replace, lighter rows remain. -/
def receiptRule : HistoryRule Order Time Decimal :=
  { age := receiptAge, weight := remaining, clash := receiptClash }

instance : DecidableRel receiptRule.clash := inferInstanceAs (DecidableRel receiptClash)

theorem receiptRule_coherent : receiptRule.Coherent := by
  refine ⟨?_, ?_⟩
  · intro a x r hax hxr hfirst hsecond
    simp only [receiptRule, receiptClash, not_or, not_not, not_and, Bool.not_eq_true] at hfirst hsecond ⊢
    obtain ⟨hgeometry, hquantity, ha, hx, hstatus, hreopen⟩ := hfirst
    obtain ⟨hgeometry', hquantity', -, hr, hstatus', hreopen'⟩ := hsecond
    refine ⟨hgeometry.trans hgeometry', hquantity.trans hquantity', ha, hr, ?_, ?_⟩
    · intro heq
      exact (hstatus (le_antisymm hax (heq ▸ hxr))).trans (hstatus' (le_antisymm hxr (heq ▸ hax)))
    · intro hlt hinactive
      have hxinactive : x.status.active = false := by
        rcases hax.eq_or_lt with heq | hlt'
        · rw [← hstatus heq]
          exact hinactive
        · exact hreopen hlt' hinactive
      rcases hxr.eq_or_lt with heq | hlt'
      · rw [← hstatus' heq]
        exact hxinactive
      · exact hreopen' hlt' hxinactive
  · intro a b heq hclash
    rcases hclash with h | h | h | h | ⟨-, h⟩ | ⟨h, -⟩
    · exact .inl (Ne.symm h)
    · exact .inr (.inl (Ne.symm h))
    · exact .inr (.inr (.inr (.inl h)))
    · exact .inr (.inr (.inl h))
    · exact .inr (.inr (.inr (.inr (.inl ⟨heq.symm, Ne.symm h⟩))))
    · exact absurd heq h.ne

/-- The row a merged history leaves. -/
def survivor (kept : Bool × Order) : Order := if kept.1 then conflicted kept.2 else kept.2

/-- `_prefer_duplicate` on a row that is not fresher than the next. -/
theorem preferDuplicate_eq {left right : Order} (hage : receiptAge left ≤ receiptAge right) :
    preferDuplicate left right =
      if receiptRule.Contradicts left right then conflicted (receiptRule.lighter left right)
      else if receiptAge left = receiptAge right then receiptRule.lighter left right
      else right := by
  have hlighter : receiptRule.lighter left right =
      if remaining left ≤ remaining right then left else right := rfl
  have hgrew : receiptRule.Contradicts left right ↔ receiptClash left right ∨
      (receiptAge left < receiptAge right ∧ remaining left < remaining right) := Iff.rfl
  unfold preferDuplicate
  rw [← hlighter]
  by_cases hshape : orderGeometry left ≠ orderGeometry right ∨ left.quantity ≠ right.quantity
  · have hclash : receiptClash left right := by
      rcases hshape with h | h
      · exact .inl h
      · exact .inr (.inl h)
    rw [if_pos hshape, if_pos (hgrew.mpr (.inl hclash))]
  rw [if_neg hshape]
  obtain ⟨hgeometry, hquantity⟩ := not_or.mp hshape
  cases hleft : venueObserved left with
  | none =>
    rw [if_pos (hgrew.mpr (.inl (.inr (.inr (.inl hleft)))))]
  | some leftTime =>
    cases hright : venueObserved right with
    | none => rw [if_pos (hgrew.mpr (.inl (.inr (.inr (.inr (.inl hright))))))]
    | some rightTime =>
      have hl : receiptAge left = leftTime := by rw [receiptAge, hleft, Option.getD_some]
      have hr : receiptAge right = rightTime := by rw [receiptAge, hright, Option.getD_some]
      rw [hl, hr] at hage
      have hclash : receiptClash left right ↔ (leftTime = rightTime ∧ left.status ≠ right.status) ∨
          (leftTime < rightTime ∧ left.status.active = false ∧ right.status.active = true) := by
        unfold receiptClash
        rw [hl, hr, hleft, hright]
        simp only [hgeometry, hquantity, reduceCtorEq, false_or]
      dsimp only
      rcases hage.eq_or_lt with heq | hlt
      · by_cases hstatus : left.status = right.status
        · have hclean : ¬ receiptRule.Contradicts left right := by
            rw [hgrew, hclash, hl, hr, heq]
            simp [hstatus]
          rw [if_pos heq, if_pos hstatus, if_neg hclean, hl, hr, if_pos heq]
        · rw [if_pos heq, if_neg hstatus,
            if_pos (hgrew.mpr (.inl (hclash.mpr (.inl ⟨heq, hstatus⟩))))]
      · rw [if_neg hlt.ne]
        simp only [if_neg hlt.not_gt]
        by_cases hreopen : left.status.active = false ∧ right.status.active = true
        · rw [if_pos hreopen, if_pos (hgrew.mpr (.inl (hclash.mpr (.inr ⟨hlt, hreopen⟩))))]
        · rw [if_neg hreopen]
          by_cases hmore : remaining left < remaining right
          · rw [if_pos hmore, if_pos (hgrew.mpr (.inr ⟨by rw [hl, hr]; exact hlt, hmore⟩))]
          · have hclean : ¬ receiptRule.Contradicts left right := by
              rw [hgrew, hclash]
              rintro ((⟨heq, -⟩ | ⟨-, h⟩) | ⟨-, h⟩)
              · exact hlt.ne heq
              · exact hreopen h
              · exact hmore h
            rw [if_neg hmore, if_neg hclean, hl, hr, if_neg hlt.ne]

variable {kept : Bool × Order}

theorem preferDuplicate_survivor {order : Order} (hage : receiptAge kept.2 ≤ receiptAge order) :
    preferDuplicate (survivor kept) order = survivor (receiptRule.step kept order) := by
  obtain ⟨flag, row⟩ := kept
  cases flag with
  | true =>
    -- a conflicted row has no receipt: it clashes with everything and keeps its remainder
    show preferDuplicate (conflicted row) order = conflicted (receiptRule.lighter row order)
    have hrow : conflicted (if remaining (conflicted row) ≤ remaining order then conflicted row
        else order) = conflicted (receiptRule.lighter row order) := by
      have hremaining : remaining (conflicted row) = remaining row := rfl
      have hlighter : receiptRule.lighter row order =
        if remaining row ≤ remaining order then row else order := rfl
      rw [hremaining, hlighter]
      split <;> rfl
    rw [← hrow]
    unfold preferDuplicate
    dsimp only
    split <;> rfl
  | false =>
    show preferDuplicate row order = _
    rw [preferDuplicate_eq hage]
    have hle : receiptRule.age (false, row).2 ≤ receiptRule.age order := hage
    rcases HistoryRule.step_cases (false, row) order hle with
      ⟨hstep, hbad⟩ | ⟨hstep, -, hclean, heq⟩ | ⟨hstep, -, hclean, hlt, -⟩
    · rw [hstep, if_pos (hbad.resolve_left (by simp))]
      rfl
    · rw [hstep, if_neg hclean, if_pos (show receiptAge row = receiptAge order from heq)]
      rfl
    · rw [hstep, if_neg hclean, if_neg (show receiptAge row ≠ receiptAge order from hlt.ne)]
      rfl

/-! ## The fold, identity by identity -/

/-- The rows of one identity among the given ones. -/
def identityRows (snapshot : DeploymentSnapshot) (key : CoverIdentity) (rows : List Order) :
    List Order :=
  rows.filter (fun order => coverIdentity snapshot order = key)

variable (snapshot : DeploymentSnapshot)

/-- Under each identity stands the survivor of its own rows; the flag says whether an
identity was repeated. -/
theorem dedupe_fold {rows : List Order} (hchron : receiptRule.Chronological rows) :
    let folded := rows.foldl (dedupeStep snapshot) (Dict.empty, false)
    (∀ key, folded.1.get? key = (receiptRule.merge (identityRows snapshot key rows)).map survivor) ∧
    (folded.2 = true ↔ ¬ (rows.map (coverIdentity snapshot)).Nodup) := by
  induction rows using List.reverseRecOn with
  | nil => exact ⟨fun key => by simp [identityRows, HistoryRule.merge], by simp⟩
  | append_singleton rows order ih =>
    obtain ⟨hrows, -, hold⟩ := pairwise_append.mp hchron
    obtain ⟨hget, hflag⟩ := ih hrows
    rw [foldl_append, foldl_cons, foldl_nil]
    generalize rows.foldl (dedupeStep snapshot) (Dict.empty, false) = folded at hget hflag
    generalize hkey : coverIdentity snapshot order = own
    have hown : identityRows snapshot own (rows ++ [order]) =
        identityRows snapshot own rows ++ [order] := by
      simp [identityRows, hkey]
    have hother : ∀ key, key ≠ own →
        identityRows snapshot key (rows ++ [order]) = identityRows snapshot key rows := by
      intro key hne
      simp [identityRows, hkey, Ne.symm hne]
    -- an identity is held exactly when it was seen
    have hseen : folded.1.get? own = none ↔ own ∉ rows.map (coverIdentity snapshot) := by
      rw [hget, Option.map_eq_none_iff]
      constructor
      · intro hnone hmem
        obtain ⟨row, hrow, hidentity⟩ := mem_map.mp hmem
        have hin : row ∈ identityRows snapshot own rows :=
          mem_filter.mpr ⟨hrow, by simpa using hidentity⟩
        obtain ⟨s, hs⟩ : ∃ s, receiptRule.merge (identityRows snapshot own rows) = some s :=
          merge_ne_none (ne_nil_of_mem hin)
        rw [hnone] at hs
        cases hs
      · intro hnot
        have hnil : identityRows snapshot own rows = [] := by
          rw [identityRows, filter_eq_nil_iff]
          intro row hrow hidentity
          exact hnot (mem_map.mpr ⟨row, hrow, by simpa using hidentity⟩)
        rw [hnil]
        rfl
    have hnodup : ((rows ++ [order]).map (coverIdentity snapshot)).Nodup ↔
        (rows.map (coverIdentity snapshot)).Nodup ∧ folded.1.get? own = none := by
      rw [hseen, map_append, map_singleton, hkey, nodup_append]
      simp only [nodup_singleton, mem_singleton, true_and, ne_eq, forall_eq]
      exact and_congr_right fun _ => ⟨fun h hmem => h _ hmem rfl, fun h a ha he => h (he ▸ ha)⟩
    rw [hnodup]
    unfold dedupeStep
    dsimp only
    rw [hkey]
    cases hprior : folded.1.get? own with
    | none =>
      refine ⟨?_, by simpa using hflag⟩
      intro key
      rw [Dict.get?_set]
      by_cases he : key = own
      · subst he
        have hnone : receiptRule.merge (identityRows snapshot key rows) = none := by
          rw [hget] at hprior
          simpa using hprior
        rw [if_pos rfl, hown, merge_append_singleton, hnone]
        rfl
      · rw [if_neg he, hother key he, hget]
    | some =>
      refine ⟨?_, by simp⟩
      intro key
      rw [Dict.get?_set]
      by_cases he : key = own
      · subst he
        rw [hget] at hprior
        obtain ⟨kept, hkept, rfl⟩ := Option.map_eq_some_iff.mp hprior
        have hmem : kept.2 ∈ rows := (mem_filter.mp (base_mem hkept)).1
        rw [if_pos rfl, hown, merge_append_singleton, hkept,
          preferDuplicate_survivor (hold kept.2 hmem order (by simp))]
        rfl
      · rw [if_neg he, hother key he, hget]

/-! ## Another row order -/

def DeploymentSnapshot.withOrders (snapshot : DeploymentSnapshot) (orders : List Order) :
    DeploymentSnapshot :=
  { snapshot with orders }

def productRows (snapshot : DeploymentSnapshot) (productId : String) : List Order :=
  snapshot.orders.filter
    (fun order => resolvedProductId order.productId snapshot.deployment = productId)

/-- A search with at most one answer does not depend on the order. -/
theorem find?_perm {α : Type} {first second : List α} {p : α → Bool} (hperm : first.Perm second)
    (hunique : ∀ a ∈ first, ∀ b ∈ first, p a = true → p b = true → a = b) :
    first.find? p = second.find? p := by
  cases hfirst : first.find? p with
  | none =>
    symm
    rw [find?_eq_none] at hfirst ⊢
    exact fun a ha => hfirst a (hperm.mem_iff.mpr ha)
  | some a =>
    have ha := mem_of_find?_eq_some hfirst
    have hpa := find?_some hfirst
    cases hsecond : second.find? p with
    | none =>
      rw [find?_eq_none] at hsecond
      exact absurd hpa (hsecond a (hperm.mem_iff.mp ha))
    | some b =>
      have hb := hperm.mem_iff.mpr (mem_of_find?_eq_some hsecond)
      rw [hunique a ha b hb hpa (find?_some hsecond)]

theorem orderedProductRows_spec (productId : String) :
    receiptRule.Ordering (productRows snapshot productId)
      (orderedProductRows snapshot productId) := by
  refine ⟨perm_insertionSort _ _, ?_⟩
  have : Std.Total (fun left right : Order => receiptAge left ≤ receiptAge right) :=
    ⟨fun left right => le_total _ _⟩
  have : IsTrans Order (fun left right : Order => receiptAge left ≤ receiptAge right) :=
    ⟨fun _ _ _ => le_trans⟩
  exact pairwise_insertionSort (fun left right : Order => receiptAge left ≤ receiptAge right) _

section

variable {snapshot : DeploymentSnapshot} {orders : List Order}

variable (hids : (snapshot.orders.map (·.id)).Nodup) (hperm : orders.Perm snapshot.orders)
include hids hperm

/-- Distinct ids: a permuted snapshot names every row alike. -/
theorem coverIdentity_withOrders (order : Order) :
    coverIdentity (snapshot.withOrders orders) order = coverIdentity snapshot order := by
  have hparent : parentAttachedVenueId (snapshot.withOrders orders) order =
      parentAttachedVenueId snapshot order := by
    unfold parentAttachedVenueId
    cases order.parentOrderId with
    | none => rfl
    | some =>
      dsimp only
      rw [show (snapshot.withOrders orders).orders = orders from rfl, find?_perm hperm]
      intro a ha b hb hpa hpb
      simp only [decide_eq_true_eq] at hpa hpb
      exact inj_on_of_nodup_map hids (hperm.mem_iff.mp ha) (hperm.mem_iff.mp hb)
        (hpa.1.trans hpb.1.symm)
  unfold coverIdentity
  rw [hparent]

theorem identityRows_ordering (productId : String) (key : CoverIdentity) :
    receiptRule.Ordering (identityRows snapshot key (productRows snapshot productId))
      (identityRows (snapshot.withOrders orders) key
        (orderedProductRows (snapshot.withOrders orders) productId)) := by
  obtain ⟨hsorted, hchron⟩ := orderedProductRows_spec (snapshot.withOrders orders) productId
  have hidentity : ∀ rows : List Order, identityRows (snapshot.withOrders orders) key rows =
      identityRows snapshot key rows := by
    intro rows
    unfold identityRows
    congr 1
    funext order
    rw [coverIdentity_withOrders hids hperm]
  have hrows : (productRows (snapshot.withOrders orders) productId).Perm
      (productRows snapshot productId) := hperm.filter _
  refine ⟨?_, hchron.filter _⟩
  rw [hidentity]
  exact (hsorted.trans hrows).filter _

theorem dedupedActive_get? (productId : String) :
    ∃ chosen : Dict CoverIdentity Order,
      (dedupedActive (snapshot.withOrders orders) productId).1 = chosen.values ∧
      (∀ key, chosen.get? key = (receiptRule.merge (identityRows (snapshot.withOrders orders) key
        (orderedProductRows (snapshot.withOrders orders) productId))).map survivor) ∧
      ((dedupedActive (snapshot.withOrders orders) productId).2 = true ↔
        ¬ ((productRows snapshot productId).map (coverIdentity snapshot)).Nodup) := by
  obtain ⟨hsorted, hchron⟩ := orderedProductRows_spec (snapshot.withOrders orders) productId
  obtain ⟨hget, hflag⟩ := dedupe_fold (snapshot.withOrders orders) hchron
  refine ⟨_, rfl, hget, hflag.trans (not_congr ?_)⟩
  have hidentity : coverIdentity (snapshot.withOrders orders) = coverIdentity snapshot :=
    funext (coverIdentity_withOrders hids hperm)
  have hrows : (orderedProductRows (snapshot.withOrders orders) productId).Perm
      (productRows snapshot productId) := hsorted.trans (hperm.filter _)
  rw [hidentity]
  exact (hrows.map _).nodup_iff

end

/-! ## Evidence from a collection -/

theorem later_comm (current first second : Option Time) :
    later (later current first) second = later (later current second) first := by
  cases current with
  | none =>
    cases first with
    | none => cases second <;> rfl
    | some =>
      cases second with
      | none => rfl
      | some =>
        simp only [later]
        split <;> split <;> grind
  | some =>
    cases first with
    | none => cases second <;> rfl
    | some =>
      cases second with
      | none => rfl
      | some =>
        simp only [later]
        grind

theorem foldStep_comm (fold : Fold) (first second : Hit) :
    foldStep (foldStep fold first) second = foldStep (foldStep fold second) first := by
  unfold foldStep
  simp only [Fold.mk.injEq]
  refine ⟨?_, ?_, ?_, ?_, later_comm _ _ _, trivial, ?_, ?_⟩
  · split <;> split <;> first | rfl | ring
  · cases fold.pending <;> simp [Bool.or_comm]
  · cases fold.unknown <;> simp [Bool.or_comm]
  · rw [Finset.union_assoc, Finset.union_comm first.flags, ← Finset.union_assoc]
  · cases fold.sideValid <;> simp [Bool.or_comm]
  · cases fold.geometryValid <;> simp [Bool.or_comm]

theorem earliest_eq_some_iff {instants : List Time} {instant : Time} :
    earliest instants = some instant ↔ instant ∈ instants ∧ ∀ other ∈ instants, instant ≤ other := by
  have hleast : ∀ (rest : List Time) (first : Time), rest.foldl min first ∈ first :: rest ∧
      ∀ other ∈ first :: rest, rest.foldl min first ≤ other := by
    intro rest
    induction rest with
    | nil => simp
    | cons next _ ih =>
      intro first
      obtain ⟨hmem, hle⟩ := ih (min first next)
      rw [foldl_cons]
      refine ⟨?_, ?_⟩
      · rcases mem_cons.mp hmem with h | h
        · rw [h]
          rcases min_choice first next with hmin | hmin <;> simp [hmin]
        · simp [h]
      · intro other hother
        have hfirst := hle (min first next) (by simp)
        rcases mem_cons.mp hother with rfl | hother
        · exact hfirst.trans (min_le_left _ _)
        · rcases mem_cons.mp hother with rfl | hother
          · exact hfirst.trans (min_le_right _ _)
          · exact hle other (by simp [hother])
  cases instants with
  | nil => simp [earliest]
  | cons first rest =>
    obtain ⟨hmem, hle⟩ := hleast rest first
    constructor
    · intro h
      cases h
      exact ⟨hmem, hle⟩
    · rintro ⟨hin, hleast⟩
      exact congrArg some (le_antisymm (hle instant hin) (hleast _ hmem))

theorem earliest_perm {first second : List Time} (h : first.Perm second) :
    earliest first = earliest second := by
  apply Option.ext
  intro instant
  rw [earliest_eq_some_iff, earliest_eq_some_iff, h.mem_iff]
  exact and_congr_right fun _ => forall_congr' fun other => by rw [h.mem_iff]

/-- The book totals do not depend on the order of the hits. -/
theorem foldHits_perm {first second : List Hit} (h : first.Perm second) (duplicate : Bool) :
    foldHits first duplicate = foldHits second duplicate := by
  have : RightCommutative foldStep := ⟨foldStep_comm⟩
  unfold foldHits
  dsimp only
  rw [h.foldl_eq, earliest_perm ((h.filter _).filterMap _)]

/-- The same surviving rows give the same evidence. -/
theorem liveEvidence_congr {snapshot : DeploymentSnapshot} {orders : List Order}
    (hids : (snapshot.orders.map (·.id)).Nodup) (hperm : orders.Perm snapshot.orders)
    {productId : String} {position : Position} {scope : String}
    (hscope : resolvedProductId (orBlank productId position.productId) snapshot.deployment = scope)
    (hrows : (dedupedActive (snapshot.withOrders orders) scope).1.Perm
      (dedupedActive snapshot scope).1)
    (hflag : (dedupedActive (snapshot.withOrders orders) scope).2 =
      (dedupedActive snapshot scope).2) (now : Time) :
    liveEvidence (snapshot.withOrders orders) productId position now =
      liveEvidence snapshot productId position now := by
  have hhits : (liveHits (snapshot.withOrders orders) scope position now).Perm
      (liveHits snapshot scope position now) := by
    have hidentity : coverIdentity (snapshot.withOrders orders) = coverIdentity snapshot :=
      funext (coverIdentity_withOrders hids hperm)
    unfold liveHits
    rw [hidentity]
    exact hrows.map _
  unfold liveEvidence
  dsimp only
  rw [show (snapshot.withOrders orders).deployment = snapshot.deployment from rfl, hscope, hflag,
    foldHits_perm hhits]

/-! ## When the row order does not matter -/

def RowOrderFree (snapshot : DeploymentSnapshot) (scope : String) : Prop :=
  ∀ orders : List Order, orders.Perm snapshot.orders →
    (dedupedActive (snapshot.withOrders orders) scope).1.Perm (dedupedActive snapshot scope).1 ∧
    (dedupedActive (snapshot.withOrders orders) scope).2 = (dedupedActive snapshot scope).2 ∧
    ∀ productId position now,
      resolvedProductId (orBlank productId position.productId) snapshot.deployment = scope →
      liveEvidence (snapshot.withOrders orders) productId position now =
        liveEvidence snapshot productId position now

def SurvivorsForced (snapshot : DeploymentSnapshot) (scope : String) : Prop :=
  ∀ key, identityRows snapshot key (productRows snapshot scope) ≠ [] →
    ∃ row, receiptRule.Forces (identityRows snapshot key (productRows snapshot scope)) row

section

variable {snapshot : DeploymentSnapshot} {scope : String}

section

variable (hids : (snapshot.orders.map (·.id)).Nodup)
include hids

theorem identityRows_nodup (key : CoverIdentity) :
    (identityRows snapshot key (productRows snapshot scope)).Nodup :=
  ((List.Nodup.of_map _ hids).filter _).filter _

theorem rowOrderFree_of_forced (hforced : SurvivorsForced snapshot scope) :
    RowOrderFree snapshot scope := by
  have hsame : ∀ orders : List Order, orders.Perm snapshot.orders →
      (dedupedActive (snapshot.withOrders orders) scope).1.Perm (dedupedActive snapshot scope).1 ∧
      (dedupedActive (snapshot.withOrders orders) scope).2 = (dedupedActive snapshot scope).2 := by
    intro orders hperm
    obtain ⟨chosen, hvalues, hget, hflag⟩ := dedupedActive_get? hids hperm scope
    obtain ⟨listed, hlisted, hget', hflag'⟩ := dedupedActive_get? hids
      (List.Perm.refl snapshot.orders) scope
    refine ⟨?_, Bool.eq_iff_iff.mpr (hflag.trans hflag'.symm)⟩
    rw [hvalues, show dedupedActive snapshot scope =
      dedupedActive (snapshot.withOrders snapshot.orders) scope from rfl, hlisted]
    refine (Dict.entries_perm fun key => ?_).map Prod.snd
    rw [hget, hget']
    congr 1
    have hfirst := identityRows_ordering hids hperm scope key
    have hsecond := identityRows_ordering hids (List.Perm.refl snapshot.orders) scope key
    by_cases hnil : identityRows snapshot key (productRows snapshot scope) = []
    · rw [hnil] at hfirst hsecond
      rw [hfirst.1.eq_nil, hsecond.1.eq_nil]
    · exact (merge_determined_iff receiptRule_coherent (identityRows_nodup hids key)
        hnil).mpr (hforced key hnil) _ _ hfirst hsecond
  intro orders hperm
  obtain ⟨hrows, hflag⟩ := hsame orders hperm
  exact ⟨hrows, hflag, fun _ _ now hscope =>
    liveEvidence_congr hids hperm hscope hrows hflag now⟩

variable {key : CoverIdentity}

theorem exists_orders {order : List Order}
    (horder : receiptRule.Ordering (identityRows snapshot key (productRows snapshot scope)) order) :
    ∃ orders : List Order, orders.Perm snapshot.orders ∧
      identityRows (snapshot.withOrders orders) key
        (orderedProductRows (snapshot.withOrders orders) scope) = order := by
  have hgroup : identityRows snapshot key (productRows snapshot scope) =
      snapshot.orders.filter (fun row =>
        decide (coverIdentity snapshot row = key) &&
          decide (resolvedProductId row.productId snapshot.deployment = scope)) := by
    unfold identityRows productRows
    rw [filter_filter]
  generalize hp : (fun row : Order => decide (coverIdentity snapshot row = key) &&
    decide (resolvedProductId row.productId snapshot.deployment = scope)) = p at hgroup
  have hperm : (order ++ snapshot.orders.filter (fun row => !p row)).Perm snapshot.orders := by
    refine List.Perm.trans (horder.1.append_right _) ?_
    rw [hgroup]
    exact filter_append_perm p snapshot.orders
  refine ⟨_, hperm, ?_⟩
  -- the ordering is a sorted sublist of the product's rows, so the stable sort keeps it
  have hmem : ∀ row ∈ order, coverIdentity snapshot row = key ∧
      resolvedProductId row.productId snapshot.deployment = scope := by
    intro row hrow
    have hin := horder.1.mem_iff.mp hrow
    rw [hgroup, ← hp, mem_filter, Bool.and_eq_true, decide_eq_true_eq, decide_eq_true_eq] at hin
    exact hin.2
  generalize horders : order ++ snapshot.orders.filter (fun row => !p row) = orders at hperm
  have hsublist : order.Sublist (productRows (snapshot.withOrders orders) scope) := by
    have hwhole : order.filter (fun row =>
        resolvedProductId row.productId snapshot.deployment = scope) = order := by
      rw [filter_eq_self]
      intro row hrow
      simpa using (hmem row hrow).2
    rw [← hwhole]
    refine List.Sublist.filter _ ?_
    rw [← horders]
    exact sublist_append_left _ _
  have hsorted : order.Sublist (orderedProductRows (snapshot.withOrders orders) scope) :=
    sublist_insertionSort horder.2 hsublist
  have hfiltered : order.Sublist (identityRows (snapshot.withOrders orders) key
      (orderedProductRows (snapshot.withOrders orders) scope)) := by
    have hwhole : identityRows (snapshot.withOrders orders) key order = order := by
      unfold identityRows
      rw [filter_eq_self]
      intro row hrow
      rw [coverIdentity_withOrders hids hperm]
      simpa using (hmem row hrow).1
    rw [← hwhole]
    exact List.Sublist.filter _ hsorted
  refine (hfiltered.eq_of_length ?_).symm
  exact horder.1.length_eq.trans (identityRows_ordering hids hperm scope key).1.length_eq.symm

/-- A survivor shows the row it came from and whether its history was contradictory. -/
theorem merge_of_survivor {first second : List Order} {kept' : Bool × Order}
    (hfirst : receiptRule.Ordering (identityRows snapshot key (productRows snapshot scope)) first)
    (hsecond : receiptRule.Ordering (identityRows snapshot key (productRows snapshot scope)) second)
    (hkept : receiptRule.merge first = some kept) (hkept' : receiptRule.merge second = some kept')
    (hsame : survivor kept = survivor kept') : kept = kept' := by
  have hrow : ∀ row ∈ identityRows snapshot key (productRows snapshot scope),
      row ∈ snapshot.orders := fun row hrow =>
    (mem_filter.mp (mem_filter.mp hrow).1).1
  have hid : ∀ s : Bool × Order, (survivor s).id = s.2.id := by
    rintro ⟨flag, row⟩
    cases flag <;> rfl
  have hin := hfirst.1.mem_iff.mp (base_mem hkept)
  have hin' := hsecond.1.mem_iff.mp (base_mem hkept')
  have hbase : kept.2 = kept'.2 :=
    inj_on_of_nodup_map hids (hrow _ hin) (hrow _ hin') (by rw [← hid, ← hid, hsame])
  -- a row that reads as its own conflict has no receipt, so it is alone
  have hflag : ∀ (order other : List Order) (row : Order),
      receiptRule.Ordering (identityRows snapshot key (productRows snapshot scope)) order →
      receiptRule.Ordering (identityRows snapshot key (productRows snapshot scope)) other →
      receiptRule.merge order = some (false, row) → receiptRule.merge other = some (true, row) →
      conflicted row ≠ row := by
    intro order other row horder hother hclean hbad he
    have hnone : venueObserved row = none := by
      rw [← he]
      rfl
    have hk := HistoryRule.kept_merge receiptRule_coherent horder.2 hclean
    have halone : ∀ q ∈ order, q = row := by
      intro q hq
      by_contra hne
      exact hk.agree rfl q hq row hk.mem hne (hk.newest rfl q hq) (.inr (.inr (.inr (.inl hnone))))
    have horders : order.Nodup := horder.1.nodup_iff.mpr (identityRows_nodup hids key)
    have hsingle : order = [row] := by
      have hmem : order.Perm [row] :=
        (perm_ext_iff_of_nodup horders (nodup_singleton row)).mpr fun q =>
          ⟨fun hq => by simp [halone q hq], fun hq => by
            rw [mem_singleton.mp hq]
            exact hk.mem⟩
      exact perm_singleton.mp hmem
    have hother' : other = [row] :=
      perm_singleton.mp ((hother.1.trans horder.1.symm).trans (by rw [hsingle]))
    rw [hother'] at hbad
    exact absurd hbad (by simp [HistoryRule.merge, HistoryRule.stepFrom])
  obtain ⟨f, row⟩ := kept
  obtain ⟨g, row'⟩ := kept'
  obtain rfl : row = row' := hbase
  cases f with
  | false =>
    cases g with
    | false => rfl
    | true => exact absurd hsame.symm (hflag first second row hfirst hsecond hkept hkept')
  | true =>
    cases g with
    | false => exact absurd hsame (hflag second first row hsecond hfirst hkept' hkept)
    | true => rfl

theorem forced_of_rowOrderFree (hfree : RowOrderFree snapshot scope) :
    SurvivorsForced snapshot scope := by
  intro key hnil
  refine (merge_determined_iff receiptRule_coherent (identityRows_nodup hids key)
    hnil).mp ?_
  intro first second hfirst hsecond
  obtain ⟨orders, hperm, hmerged⟩ := exists_orders hids hfirst
  obtain ⟨orders', hperm', hmerged'⟩ := exists_orders hids hsecond
  obtain ⟨chosen, hvalues, hget, -⟩ := dedupedActive_get? hids hperm scope
  obtain ⟨chosen', hvalues', hget', -⟩ := dedupedActive_get? hids hperm' scope
  have hperms : chosen.values.Perm chosen'.values := by
    rw [← hvalues, ← hvalues']
    exact (hfree orders hperm).1.trans (hfree orders' hperm').1.symm
  obtain ⟨kept, hkept⟩ : ∃ s, receiptRule.merge first = some s := by
    refine merge_ne_none ?_
    rintro rfl
    exact hnil hfirst.1.symm.eq_nil
  -- the survivor stands under its own identity in either collection
  have hidentity : ∀ (rows : List Order) (k : CoverIdentity) (s : Bool × Order),
      receiptRule.merge (identityRows (snapshot.withOrders orders') k rows) = some s →
      coverIdentity snapshot (survivor s) = k := by
    intro rows k s hs
    have hmem := (mem_filter.mp (base_mem hs)).2
    rw [coverIdentity_withOrders hids hperm'] at hmem
    have hrow : coverIdentity snapshot (survivor s) = coverIdentity snapshot s.2 := by
      unfold survivor
      split
      · exact coverIdentity_conflicted snapshot s.2
      · rfl
    rw [hrow]
    simpa using hmem
  have hstored : chosen.get? key = some (survivor kept) := by
    rw [hget, hmerged, hkept]
    rfl
  have hin : survivor kept ∈ chosen'.values :=
    hperms.mem_iff.mp (Dict.mem_values_iff.mpr ⟨key, hstored⟩)
  obtain ⟨k, hk⟩ := Dict.mem_values_iff.mp hin
  have hkey : coverIdentity snapshot (survivor kept) = key := by
    have hmem := hfirst.1.mem_iff.mp (base_mem hkept)
    have hown := (mem_filter.mp hmem).2
    unfold survivor
    split
    · exact (coverIdentity_conflicted snapshot kept.2).trans (by simpa using hown)
    · simpa using hown
  rw [hget'] at hk
  obtain ⟨kept', hkept', hsame⟩ := Option.map_eq_some_iff.mp hk
  obtain rfl : k = key := by
    rw [← hidentity _ k kept' hkept', hsame, hkey]
  rw [hmerged'] at hkept'
  rw [hkept, hkept', merge_of_survivor hids hfirst hsecond hkept hkept' hsame.symm]

end

/-- The surviving protective orders, and so the live evidence, are the same for every order of the
rows exactly when the rows of every identity force the survivor. -/
theorem rowOrderFree_iff (hids : (snapshot.orders.map (·.id)).Nodup) :
    RowOrderFree snapshot scope ↔ SurvivorsForced snapshot scope :=
  ⟨forced_of_rowOrderFree hids, rowOrderFree_of_forced hids⟩

end

/-! ### Three reads of one stop -/

/-- A read of the stop `v1` of size 5: its local id, receipt and filled quantity. -/
def sampleStopRead (id : Uuid) (receipt : Time) (filledQuantity : Decimal) : Order :=
  { id
    deploymentId := 1
    intentId := 1
    clientOrderId := "stop"
    side := .sell
    kind := .stopLimit
    quantity := 5
    status := .open
    createdAt := 0
    updatedAt := 0
    price := some 89
    filledQuantity
    venueOrderId := some "v1"
    stopTriggerPrice := some 90
    venueObservedAt := some (.aware receipt) }

/-- A live book with the given reads of its stop. -/
def sampleStopSnapshot (orders : List Order) : DeploymentSnapshot :=
  { deployment := { sampleDeployment with mode := .live }
    position := none
    orders }

def sampleStopPosition : Position :=
  { deploymentId := 1
    quantity := 5
    entryPrice := 100
    stopPrice := 90
    targetPrice := none
    enteredBar := 0
    updatedAt := 0
    productId := "BTC-USD" }

/-- Two reads with different receipts: the fresher one survives in either order. -/
theorem rowOrderFree_iff_fresher :
    RowOrderFree (sampleStopSnapshot [sampleStopRead 1 1000 3, sampleStopRead 2 2000 4])
      "BTC-USD" := by
  refine (rowOrderFree_iff (by decide)).mpr ?_
  intro key hnil
  by_cases hkey : key = .venue "v1"
  · subst hkey
    exact ⟨sampleStopRead 2 2000 4, by decide +kernel⟩
  · refine absurd ?_ hnil
    unfold identityRows
    rw [filter_eq_nil_iff]
    intro row hrow
    have hrow : row = sampleStopRead 1 1000 3 ∨ row = sampleStopRead 2 2000 4 := by
      have := (mem_filter.mp hrow).1
      simpa [sampleStopSnapshot] using this
    have hvenue : row.venueOrderId = some "v1" := by
      rcases hrow with rfl | rfl <;> rfl
    rw [decide_eq_true_eq, coverIdentity, hvenue]
    exact Ne.symm hkey

/-- A read with 2 remaining, then two equally fresh ones with 1 and 3. -/
def sampleEqualReceipts : List Order :=
  [sampleStopRead 1 1000 3, sampleStopRead 2 2000 4, sampleStopRead 3 2000 2]

/-- The same three rows, the last two exchanged. -/
def sampleEqualReceiptsMoved : List Order :=
  [sampleStopRead 1 1000 3, sampleStopRead 3 2000 2, sampleStopRead 2 2000 4]

/-- Read first, the smaller remainder is confirmed cover; read second, the history is contradictory
and nothing is confirmed. -/
theorem equalReceipts_order_matters :
    sampleEqualReceiptsMoved.Perm sampleEqualReceipts ∧
    (liveEvidence (sampleStopSnapshot sampleEqualReceipts) "BTC-USD" sampleStopPosition
      2001).coveredQuantity = some 1 ∧
    (liveEvidence (sampleStopSnapshot sampleEqualReceipts) "BTC-USD" sampleStopPosition
      2001).status = .unprotected ∧
    (liveEvidence (sampleStopSnapshot sampleEqualReceiptsMoved) "BTC-USD" sampleStopPosition
      2001).coveredQuantity = some 0 ∧
    (liveEvidence (sampleStopSnapshot sampleEqualReceiptsMoved) "BTC-USD" sampleStopPosition
      2001).status = .unknown := by
  refine ⟨?_, by decide +kernel, by decide +kernel, by decide +kernel, by decide +kernel⟩
  exact (List.Perm.swap _ _ []).cons _

end Thytrader.Trading
