import Thytrader.Trading.FillProjection

/-!
# The siblings of a projected fill

`project_fill_economics` focuses the filled product and then rebuilds the tuple of positions on
each branch by itself. The positions of the other products come through

* a repair and a full exit, always;
* an entry, a scale-in and a partial exit, unless the primary product's position is stored with a
  blank product id and another product was filled: `_replace_position` reads a blank id as the
  filled product, where the full exit resolves it;
* an entry that faults (no stored stop, no timeframe) only when there are none: the branch
  returns an empty tuple.

`projectFillEconomics_keeps_iff` puts the branches together.
-/

namespace Thytrader.Trading

open List

/-! ## The positions of a product -/

def positionsOf (snapshot : DeploymentSnapshot) (productId : String) : List Position :=
  (snapshotPositions snapshot).filter
    (fun item => resolvedProductId item.productId snapshot.deployment = productId)

def KeepsSiblings (before after : DeploymentSnapshot) (productId : String) : Prop :=
  ∀ other, other ≠ productId → positionsOf after other = positionsOf before other

/-- A position of another product. -/
def HasSibling (snapshot : DeploymentSnapshot) (productId : String) : Prop :=
  ∃ item ∈ snapshotPositions snapshot,
    resolvedProductId item.productId snapshot.deployment ≠ productId

/-- A position of another product, the primary one, stored with a blank id. -/
def HasBlankSibling (snapshot : DeploymentSnapshot) (productId : String) : Prop :=
  productId ≠ snapshot.deployment.productId ∧
    ∃ item ∈ snapshotPositions snapshot, item.productId = ""

def reducesExcess (snapshot : DeploymentSnapshot) (order : Order) : Bool :=
  match snapshot.intents.find? (fun item => item.id = order.intentId) with
  | none => false
  | some intent => startsWith (intent.idempotencyKey.getD "").toList excessReductionPrefix.toList

/-- The entry fill lacks the stop or the timeframe that a position needs. -/
def lacksEntryTerms (snapshot : DeploymentSnapshot) (productId : String)
    (timeframe : Option String) : Prop :=
  (runtimeFor snapshot productId).pendingStopPrice = none ∨
    orText snapshot.deployment.timeframe timeframe = none

instance (snapshot : DeploymentSnapshot) (productId : String) (timeframe : Option String) :
    Decidable (lacksEntryTerms snapshot productId timeframe) :=
  inferInstanceAs (Decidable (_ ∨ _))

/-- The projection of this fill loses a position of another product. -/
def LosesSibling (snapshot : DeploymentSnapshot) (fill : Fill) (order : Order)
    (timeframe : Option String) : Prop :=
  let productId := resolvedProductId order.productId snapshot.deployment
  reducesExcess snapshot order = false ∧
    match positionFor snapshot productId with
    | none =>
      if lacksEntryTerms snapshot productId timeframe then HasSibling snapshot productId
      else HasBlankSibling snapshot productId
    | some position =>
      (scalingIn position order.side = true ∨ fill.quantity < position.quantity) ∧
        HasBlankSibling snapshot productId

theorem resolvedProductId_resolved (productId : String) (deployment : Deployment) :
    resolvedProductId (resolvedProductId productId deployment) deployment =
      resolvedProductId productId deployment := by
  unfold resolvedProductId
  by_cases hblank : productId = ""
  · rw [hblank, orBlank_empty]
    by_cases hprimary : deployment.productId = ""
    · rw [hprimary, orBlank_empty]
    · rw [orBlank_of_ne hprimary]
  · rw [orBlank_of_ne hblank, orBlank_of_ne hblank]

variable {position : Position}

section

variable {snapshot projected : DeploymentSnapshot} {productId : String}

/-- The positions and the primary product are all that the siblings depend on. -/
theorem positionsOf_congr {first second : DeploymentSnapshot}
    (hpositions : snapshotPositions first = snapshotPositions second)
    (hprimary : first.deployment.productId = second.deployment.productId) (productId : String) :
    positionsOf first productId = positionsOf second productId := by
  unfold positionsOf resolvedProductId
  rw [hpositions, hprimary]

theorem keepsSiblings_congr {other : DeploymentSnapshot}
    (hpositions : snapshotPositions projected = snapshotPositions other)
    (hprimary : projected.deployment.productId = other.deployment.productId) :
    KeepsSiblings snapshot projected productId ↔ KeepsSiblings snapshot other productId := by
  refine forall_congr' fun sibling => ?_
  rw [positionsOf_congr hpositions hprimary sibling]

theorem keepsSiblings_replaced (hpositions : projected.positions =
      replacePosition (snapshotPositions snapshot) position productId)
    (hprimary : projected.deployment.productId = snapshot.deployment.productId)
    (hposition : resolvedProductId position.productId snapshot.deployment = productId) :
    KeepsSiblings snapshot projected productId ↔ ¬HasBlankSibling snapshot productId := by
  have hall : snapshotPositions projected =
      replacePosition (snapshotPositions snapshot) position productId := by
    have hsome : projected.positions ≠ [] := by
      rw [hpositions]
      simp [replacePosition]
    exact (if_neg hsome).trans hpositions
  unfold KeepsSiblings positionsOf
  rw [hall]
  unfold resolvedProductId at hposition ⊢
  rw [hprimary]
  constructor
  · intro hkeeps hblank
    obtain ⟨hother, item, hitem, hblank⟩ := hblank
    have hfound : item ∈ (snapshotPositions snapshot).filter (fun item =>
        orBlank item.productId snapshot.deployment.productId = snapshot.deployment.productId) :=
      mem_filter.mpr ⟨hitem, by simp [hblank]⟩
    rw [← hkeeps snapshot.deployment.productId (Ne.symm hother)] at hfound
    obtain ⟨hmem, hresolved⟩ := mem_filter.mp hfound
    obtain hmem | hmem := mem_append.mp hmem
    · have hkept := (mem_filter.mp hmem).2
      rw [hblank, orBlank_empty] at hkept
      exact absurd rfl (of_decide_eq_true hkept)
    · obtain rfl := mem_singleton.mp hmem
      exact hother (hposition.symm.trans (of_decide_eq_true hresolved))
  · intro hnone other hother
    have hnew : [position].filter (fun item =>
        orBlank item.productId snapshot.deployment.productId = other) = [] := by
      rw [filter_eq_nil_iff]
      intro item hitem
      obtain rfl := mem_singleton.mp hitem
      rw [hposition]
      exact fun h => hother (of_decide_eq_true h).symm
    unfold replacePosition
    rw [filter_append, hnew, append_nil, filter_filter]
    refine filter_congr fun item hitem => ?_
    by_cases hblank : item.productId = ""
    · -- a blank id is the filled product's own: the filled product is the primary one
      have hown : productId = snapshot.deployment.productId := by
        by_contra hne
        exact hnone ⟨hne, item, hitem, hblank⟩
      rw [hblank, orBlank_empty, orBlank_empty, ← hown]
      simp [Ne.symm hother]
    · rw [orBlank_of_ne hblank, orBlank_of_ne hblank]
      by_cases hitsOther : item.productId = other
      · simp [hitsOther, hother]
      · simp [hitsOther]

theorem keepsSiblings_removed
    (hpositions : projected.positions = (snapshotPositions snapshot).filter
      (fun item => resolvedProductId item.productId snapshot.deployment ≠ productId))
    (hnone : projected.position = none)
    (hprimary : projected.deployment.productId = snapshot.deployment.productId) :
    KeepsSiblings snapshot projected productId := by
  have hall : snapshotPositions projected = projected.positions := by
    unfold snapshotPositions
    split
    next hnil => rw [hnone, hnil]; rfl
    · rfl
  intro other hother
  unfold positionsOf resolvedProductId at *
  rw [hall, hpositions, hprimary, filter_filter]
  refine filter_congr fun item _ => ?_
  by_cases hitsOther : orBlank item.productId snapshot.deployment.productId = other
  · simp [hitsOther, hother]
  · simp [hitsOther]

theorem keepsSiblings_emptied (hpositions : projected.positions = [])
    (hnone : projected.position = none) :
    KeepsSiblings snapshot projected productId ↔ ¬HasSibling snapshot productId := by
  have hall : ∀ other, positionsOf projected other = [] := by
    intro other
    unfold positionsOf snapshotPositions
    rw [if_pos hpositions, hnone]
    rfl
  constructor
  · intro hkeeps hsibling
    obtain ⟨item, hitem, hother⟩ := hsibling
    have hkept := hkeeps _ hother
    rw [hall] at hkept
    have hfound : item ∈ positionsOf snapshot
        (resolvedProductId item.productId snapshot.deployment) :=
      mem_filter.mpr ⟨hitem, decide_eq_true rfl⟩
    rw [← hkept] at hfound
    cases hfound
  · intro hnosibling other hother
    rw [hall]
    refine (filter_eq_nil_iff.mpr ?_).symm
    intro item hitem hresolved
    exact hnosibling ⟨item, hitem, by rw [of_decide_eq_true hresolved]; exact hother⟩

end

/-! ## The branches -/

section

variable {snapshot projected : DeploymentSnapshot} {fill stamped : Fill} {order : Order}
  {timeframe : Option String} {now : Time}

variable {product : String}

/-- A fill on a book without a position. -/
theorem projectEntry_keeps_iff
    (hproduct : resolvedProductId order.productId snapshot.deployment = product)
    (h : projectEntry (overlaySnapshot snapshot product) fill order now timeframe = .ok projected) :
    KeepsSiblings snapshot projected product ↔
      ¬(if lacksEntryTerms snapshot product timeframe then HasSibling snapshot product
        else HasBlankSibling snapshot product) := by
  unfold projectEntry at h
  dsimp only at h
  split at h
  next hstop =>
    cases h
    have hlacks : lacksEntryTerms snapshot product timeframe := .inl hstop
    rw [if_pos hlacks]
    exact keepsSiblings_emptied rfl rfl
  next stop hstop =>
    split at h
    next htimeframe =>
      cases h
      have hlacks : lacksEntryTerms snapshot product timeframe := .inr htimeframe
      rw [if_pos hlacks]
      exact keepsSiblings_emptied rfl rfl
    next barTimeframe htimeframe =>
      obtain ⟨enteredBar, -, rfl⟩ := bind_pure_ok h
      have hterms : ¬lacksEntryTerms snapshot product timeframe := by
        intro hlacks
        obtain hmissing | hmissing := hlacks
        · cases (hstop.symm.trans hmissing)
        · cases (htimeframe.symm.trans hmissing)
      rw [if_neg hterms]
      exact keepsSiblings_replaced (congrArg (replacePosition _ _) hproduct) rfl
        ((resolvedProductId_resolved _ _).trans hproduct)

theorem projectScaleIn_keeps_iff
    (hposition : resolvedProductId position.productId snapshot.deployment = product)
    (h : projectScaleIn (overlaySnapshot snapshot product) fill order position now = .ok projected) :
    KeepsSiblings snapshot projected product ↔
      ¬HasBlankSibling snapshot product := by
  obtain ⟨-, h⟩ := of_ite_ne h nofun
  cases h
  exact keepsSiblings_replaced (congrArg (replacePosition _ _) hposition) rfl hposition

/-- A fill against the position: partial exits replace it, full exits filter it out. -/
theorem projectExit_keeps_iff (cooldownBars : Int)
    (hposition : resolvedProductId position.productId snapshot.deployment = product) :
    KeepsSiblings snapshot (projectExit (overlaySnapshot snapshot product) fill order position
      cooldownBars now) product ↔
      ¬(fill.quantity < position.quantity ∧
        HasBlankSibling snapshot product) := by
  unfold projectExit
  split
  next hpartial =>
    rw [and_iff_right hpartial]
    exact keepsSiblings_replaced (congrArg (replacePosition _ _) hposition) rfl hposition
  next hfull =>
    refine iff_of_true ?_ (fun h => hfull h.1)
    refine keepsSiblings_removed ?_ rfl ?_
    · dsimp only
      rw [← hposition]
      rfl
    · dsimp only
      split
      · rfl
      · rfl

end

/-! ## The projection -/

section

variable {snapshot projected : DeploymentSnapshot} {fill stamped : Fill} {order : Order}
  {cooldownBars : Int} {timeframe : Option String} {now after : Time}

theorem projectExcessReduction_isSome {repaired : Option (DeploymentSnapshot × Fill)}
    (h : projectExcessReduction snapshot fill order now = .ok repaired) :
    repaired.isSome = reducesExcess snapshot order := by
  unfold projectExcessReduction at h
  unfold reducesExcess
  cases hintent : snapshot.intents.find? (fun item => item.id = order.intentId) with
  | none =>
    rw [hintent] at h
    cases h
    rfl
  | some =>
    rw [hintent] at h
    dsimp only at h ⊢
    split at h
    next hprefix =>
      cases h
      exact (Bool.eq_false_iff.mpr hprefix).symm
    next hprefix =>
      rw [not_not.mp hprefix]
      obtain ⟨-, h⟩ := of_ite_ne h nofun
      split at h
      · cases h
      · obtain ⟨-, h⟩ := of_ite_ne h nofun
        obtain ⟨-, h⟩ := of_ite_ne h nofun
        cases h
        rfl

theorem projectInventory_keeps_iff
    (hroute : reducesExcess snapshot order = false)
    (h : projectInventory (overlaySnapshot snapshot
      (resolvedProductId order.productId snapshot.deployment)) fill order cooldownBars timeframe
        now = .ok (projected, stamped)) :
    KeepsSiblings snapshot projected (resolvedProductId order.productId snapshot.deployment) ↔
      ¬LosesSibling snapshot fill order timeframe := by
  unfold projectInventory at h
  unfold LosesSibling
  rw [and_iff_right hroute]
  rw [overlaySnapshot_position] at h
  cases hposition : positionFor snapshot
      (resolvedProductId order.productId snapshot.deployment) with
  | none =>
    rw [hposition] at h
    obtain ⟨entered, hentry, h⟩ := bind_eq_ok h
    cases h
    exact projectEntry_keeps_iff rfl hentry
  | some position =>
    rw [hposition] at h
    have hresolved := positionFor_resolved hposition
    dsimp only at h ⊢
    split at h
    next hscaling =>
      obtain ⟨scaled, hscale, h⟩ := bind_eq_ok h
      cases h
      rw [and_iff_right (.inl hscaling)]
      exact projectScaleIn_keeps_iff hresolved hscale
    next hclosing =>
      cases h
      rw [or_iff_right hclosing]
      exact projectExit_keeps_iff cooldownBars hresolved

/-- The siblings of a projected fill come through exactly when the branch the fill takes does
not lose one. -/
theorem projectFillEconomics_keeps_iff
    (h : projectFillEconomics snapshot fill order cooldownBars timeframe now after =
      .ok (projected, stamped)) :
    KeepsSiblings snapshot projected (resolvedProductId order.productId snapshot.deployment) ↔
      ¬LosesSibling snapshot fill order timeframe := by
  obtain ⟨routed, hrouted, h⟩ := bind_eq_ok h
  cases h
  obtain ⟨bound, hbound⟩ := requireFuturesFlatConfirmation_eq routed.1.deployment after
    routed.1.position.isNone
  -- the tail of the projection moves neither positions nor the primary product
  have hfinish : KeepsSiblings snapshot (finishProjection snapshot routed.1
      (resolvedProductId order.productId snapshot.deployment) after)
        (resolvedProductId order.productId snapshot.deployment) ↔
      KeepsSiblings snapshot routed.1 (resolvedProductId order.productId snapshot.deployment) := by
    refine keepsSiblings_congr rfl ?_
    simp only [finishProjection, hbound, Deployment.withFlatConfirmation]
  rw [hfinish]
  obtain ⟨repaired, hrepaired, hrouted⟩ := bind_eq_ok hrouted
  have hroute := projectExcessReduction_isSome hrepaired
  cases repaired with
  | some =>
    cases hrouted
    obtain ⟨-, hprojected⟩ := projectExcessReduction_some hrepaired
    refine iff_of_true ?_ (fun hloses => absurd (hroute.trans hloses.1) (by simp))
    intro other _
    refine positionsOf_congr ?_ ?_ other
    · rw [hprojected]
      rfl
    · rw [hprojected]
  | none =>
    exact projectInventory_keeps_iff hroute.symm hrouted

end

/-! ## A book with a sibling -/

def siblingBook (storedAs : String) (pendingStop : Option Decimal) : DeploymentSnapshot :=
  { deployment := sampleDeployment
    positions := [
      { deploymentId := 1
        quantity := 2
        entryPrice := 100
        stopPrice := 90
        targetPrice := none
        enteredBar := 0
        updatedAt := 0
        productId := storedAs }]
    instrumentRuntimes := [
      { productId := "BTC-USD", phase := .open },
      { productId := "ETH-USD", phase := .pendingEntry, pendingStopPrice := pendingStop }] }

def siblingOrder : Order := { sampleOrder 5 .buy with productId := "ETH-USD" }

theorem projectFillEconomics_keeps_iff_entry :
    ∃ projected stamped,
      projectFillEconomics (siblingBook "BTC-USD" (some 95)) (sampleFill 10 "v1" 3) siblingOrder 0
        none 7 7 = .ok (projected, stamped) ∧
      (KeepsSiblings (siblingBook "BTC-USD" (some 95)) projected "ETH-USD" ↔
        ¬LosesSibling (siblingBook "BTC-USD" (some 95)) (sampleFill 10 "v1" 3) siblingOrder
          none) := by
  refine ⟨_, _, rfl, ?_⟩
  have hrun : projectFillEconomics (siblingBook "BTC-USD" (some 95)) (sampleFill 10 "v1" 3)
      siblingOrder 0 none 7 7 = .ok _ := rfl
  exact projectFillEconomics_keeps_iff hrun

/-- Two fills on ETH lose the BTC position: an entry without its stored stop, and one beside a BTC
position with a blank id. -/
theorem entry_loses_sibling :
    (∃ projected stamped,
      projectFillEconomics (siblingBook "BTC-USD" none) (sampleFill 10 "v1" 3) siblingOrder 0
        none 7 7 = .ok (projected, stamped) ∧
      positionsOf (siblingBook "BTC-USD" none) "BTC-USD" ≠ [] ∧
      positionsOf projected "BTC-USD" = [] ∧
      ¬KeepsSiblings (siblingBook "BTC-USD" none) projected "ETH-USD") ∧
    ∃ projected stamped,
      projectFillEconomics (siblingBook "" (some 95)) (sampleFill 10 "v1" 3) siblingOrder 0
        none 7 7 = .ok (projected, stamped) ∧
      positionsOf (siblingBook "" (some 95)) "BTC-USD" ≠ [] ∧
      positionsOf projected "BTC-USD" = [] ∧
      ¬KeepsSiblings (siblingBook "" (some 95)) projected "ETH-USD" := by
  constructor
  · refine ⟨_, _, rfl, by decide +kernel, by decide +kernel, ?_⟩
    intro hkeeps
    exact absurd (hkeeps "BTC-USD" (by decide)) (by decide +kernel)
  · refine ⟨_, _, rfl, by decide +kernel, by decide +kernel, ?_⟩
    intro hkeeps
    exact absurd (hkeeps "BTC-USD" (by decide)) (by decide +kernel)

end Thytrader.Trading
