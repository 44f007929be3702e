import Thytrader.Trading.FillProjection

/-!
# Runs of futures repairs

A repair fill is accepted within the proven excess and moves the managed quantity toward zero by
its own quantity, so the excess is a budget. Every repair of a run proves it anew from the applied
fills before it, and together they never take more than the first one proved
(`RepairRun.within_excess`). The projected book is left alone.
-/

namespace Thytrader.Trading

variable {before after : DeploymentSnapshot} {fill : Fill} {order : Order}

/-- The managed quantity that the applied fills of a book prove. -/
def provenManaged (snapshot : DeploymentSnapshot) : Option Decimal :=
  managedSignedBase
    { snapshot with fills := snapshot.fills.filter (·.economicsAppliedAt.isSome) }

/-- One repair of a run: a fill of a stored order, at most recorded as evidence so far. -/
structure Repair (before : DeploymentSnapshot) (fill : Fill) (after : DeploymentSnapshot) :
    Prop where
  pending : ∀ row ∈ before.fills, row.id = fill.id → row.economicsAppliedAt = none
  projected : ∃ order now cooldownBars timeframe bound stamped,
    lastOrder? before.orders fill.orderId = some order ∧
    IsExcessReduction before fill order now ∧
    projectFillEconomics before fill order cooldownBars timeframe now bound = .ok (after, stamped)

inductive RepairRun : DeploymentSnapshot → List Fill → DeploymentSnapshot → Prop where
  | done (book : DeploymentSnapshot) : RepairRun book [] book
  | step {before next after : DeploymentSnapshot} {fill : Fill} {fills : List Fill}
      (h : Repair before fill next) (hrest : RepairRun next fills after) :
      RepairRun before (fill :: fills) after

/-! ## The managed quantity -/

theorem managedSignedLoop_applied {fills : List Fill} {seen : List String}
    {total managed : Decimal} (h : managedSignedLoop before fills seen total = some managed) :
    ∀ fill ∈ fills, fill.economicsAppliedAt.isSome = true := by
  induction fills generalizing seen total with
  | nil => exact fun _ hmem => absurd hmem (by simp)
  | cons first rest ih =>
    unfold managedSignedLoop at h
    split at h
    · cases h
    next side hside =>
      have hfirst : first.economicsAppliedAt.isSome = true := by
        cases happlied : first.economicsAppliedAt with
        | some => rfl
        | none => simp [managedFillSide, happlied] at hside
      intro fill hfill
      rcases List.mem_cons.mp hfill with rfl | hrest
      · exact hfirst
      · exact ih h fill hrest

/-- The loop over one more fill, in a book that names the same orders. -/
theorem managedSignedLoop_concat (hside : managedFillSide after = managedFillSide before)
    (fills : List Fill) (seen : List String) (total : Decimal) :
    ∃ seen', managedSignedLoop after (fills ++ [fill]) seen total =
      (managedSignedLoop before fills seen total).bind (fun managed =>
        (managedFillSide after seen' fill).map (managed + ·.signed fill.quantity)) := by
  induction fills generalizing seen total with
  | nil =>
    refine ⟨seen, ?_⟩
    simp only [List.nil_append, managedSignedLoop, Option.bind_some]
    cases managedFillSide after seen fill with
    | none | some => rfl
  | cons first rest ih =>
    simp only [List.cons_append, managedSignedLoop]
    rw [← congrFun (congrFun hside seen) first]
    cases managedFillSide after seen first with
    | none => exact ⟨seen, rfl⟩
    | some side => exact ih _ _

/-! ## One repair -/

/-- The guards of an accepted repair. -/
structure Proven (before : DeploymentSnapshot) (fill : Fill) (order : Order) (managed : Decimal) :
    Prop where
  prior : managedSignedBase
    { before with fills := before.fills.filter (fun row => row.id ≠ fill.id) } = some managed
  closing : managed ≠ 0 ∧ (order.side = .buy ↔ managed < 0)
  quantity : 0 < fill.quantity ∧ fill.quantity ≤ excessQuantity before managed

theorem IsExcessReduction.proven {now : Time} (h : IsExcessReduction before fill order now) :
    ∃ managed, Proven before fill order managed := by
  obtain ⟨repaired, h⟩ := h
  unfold projectExcessReduction at h
  dsimp only at h
  split at h
  · cases h
  · obtain ⟨-, h⟩ := of_ite_ne h nofun
    obtain ⟨-, h⟩ := of_ite_ne h nofun
    split at h
    · cases h
    next managed hmanaged =>
      obtain ⟨hclosing, h⟩ := of_ite_ne h nofun
      obtain ⟨hquantity, -⟩ := of_ite_ne h nofun
      rw [not_or] at hclosing hquantity
      refine ⟨managed, hmanaged, ⟨hclosing.1, ?_⟩, not_le.mp hquantity.1, not_lt.mp hquantity.2⟩
      have hside := hclosing.2
      rw [decide_eq_decide] at hside
      rcases lt_or_gt_of_ne hclosing.1 with hshort | hlong
      · simp only [hshort.not_gt, iff_false, not_not] at hside
        exact iff_of_true hside hshort
      · simp only [hlong, iff_true] at hside
        exact iff_of_false hside hlong.not_gt

/-- What a repair must leave of the managed quantity: the book, when it is on the same side. -/
def keptByRepair (position : Option Position) (short : Bool) : Decimal :=
  match position with
  | none => 0
  | some position =>
    let bookShort : Bool :=
      match position.side with
      | .short => decide (0 ≤ position.quantity)
      | .long => decide (position.quantity < 0)
    if bookShort ≠ short then 0 else |position.signed|

theorem keptByRepair_nonneg (position : Option Position) (short : Bool) :
    0 ≤ keptByRepair position short := by
  unfold keptByRepair
  split
  · exact le_rfl
  · dsimp only
    generalize (match _ with | PositionSide.short => _ | PositionSide.long => _ : Bool) = bookShort
    split
    · exact le_rfl
    · exact abs_nonneg _

theorem excessQuantity_eq (snapshot : DeploymentSnapshot) (managed : Decimal) :
    excessQuantity snapshot managed =
      max 0 (|managed| - keptByRepair snapshot.position (decide (managed < 0))) := by
  by_cases hzero : managed = 0
  · subst hzero
    have hkept := keptByRepair_nonneg snapshot.position (decide ((0 : Decimal) < 0))
    rw [abs_zero, max_eq_left (sub_nonpos.mpr hkept), excessQuantity]
    split
    · exact abs_zero
    · rfl
  · unfold excessQuantity keptByRepair
    cases snapshot.position with
    | none => simp
    | some position =>
      simp only [if_neg hzero]
      split <;> split <;> simp_all

/-- An accepted repair leaves its quantity less, on the same side and not below the book. -/
theorem Proven.spends {managed left : Decimal} (h : Proven before fill order managed)
    (hleft : left = managed + order.side.signed fill.quantity)
    (hposition : after.position = before.position) :
    left ∈ Set.uIcc 0 managed ∧ |left| = |managed| - fill.quantity ∧
    excessQuantity after left = excessQuantity before managed - fill.quantity := by
  obtain ⟨hpositive, hwithin⟩ := h.quantity
  have hkept := keptByRepair_nonneg before.position
  rw [excessQuantity_eq before] at hwithin ⊢
  have hroom := (le_max_iff.mp hwithin).resolve_left (not_le.mpr hpositive)
  have hspent : left ∈ Set.uIcc 0 managed ∧ |left| = |managed| - fill.quantity ∧
      (left = 0 ∨ (left < 0 ↔ managed < 0)) := by
    specialize hkept (decide (managed < 0))
    rw [Set.mem_uIcc]
    rcases lt_or_gt_of_ne h.closing.1 with hshort | hlong
    · have hside : order.side = .buy := h.closing.2.mpr hshort
      rw [hside, OrderSide.signed] at hleft
      rw [abs_of_neg hshort] at hroom ⊢
      have hnonpos : left ≤ 0 := by linarith
      rw [abs_of_nonpos hnonpos]
      exact ⟨.inr ⟨by linarith, hnonpos⟩, by linarith,
        hnonpos.eq_or_lt.imp id (fun hneg => iff_of_true hneg hshort)⟩
    · have hside : order.side = .sell := by
        cases hside : order.side with
        | buy => exact absurd (h.closing.2.mp hside) hlong.not_gt
        | sell => rfl
      rw [hside, OrderSide.signed] at hleft
      rw [abs_of_pos hlong] at hroom ⊢
      have hnonneg : 0 ≤ left := by linarith
      rw [abs_of_nonneg hnonneg]
      exact ⟨.inl ⟨hnonneg, by linarith⟩, by linarith,
        .inr (iff_of_false hnonneg.not_gt hlong.not_gt)⟩
  obtain ⟨hbetween, habs, hsign⟩ := hspent
  refine ⟨hbetween, habs, ?_⟩
  rw [excessQuantity_eq, hposition, max_eq_right (hpositive.le.trans hroom)]
  rcases hsign with hzero | hsame
  · rw [hzero, abs_zero] at habs ⊢
    rw [max_eq_left (by linarith [hkept (decide ((0 : Decimal) < 0))])]
    linarith [hkept (decide (managed < 0))]
  · rw [decide_eq_decide.mpr hsame, habs, max_eq_right (by linarith)]
    ring

theorem Repair.spec (h : Repair before fill after) : ∃ order managed,
    Proven before fill order managed ∧ provenManaged before = some managed ∧
    after.position = before.position ∧ after.positions = before.positions ∧
    ∀ left, provenManaged after = some left →
      left = managed + order.side.signed fill.quantity := by
  obtain ⟨order, now, cooldownBars, timeframe, bound, stamped, hstored, hreduction, hprojected⟩ :=
    h.projected
  obtain ⟨managed, hproven⟩ := hreduction.proven
  obtain ⟨⟨routed, routedFill⟩, hroute⟩ := hreduction
  obtain ⟨rfl, hrouted⟩ := projectExcessReduction_some hroute
  have hrow := (projectFillEconomics_spec hprojected).row
  -- the fill itself is not applied yet, so the proof reads exactly the applied rows
  have hothers : before.fills.filter (fun row => row.id ≠ fill.id) =
      before.fills.filter (·.economicsAppliedAt.isSome) := by
    refine List.filter_congr (fun row hmem => ?_)
    by_cases hid : row.id = fill.id
    · simp [hid, h.pending row hmem hid]
    · simp [hid, managedSignedLoop_applied hproven.prior row (by simp [hmem, hid])]
  have hprior := hproven.prior
  rw [hothers] at hprior
  unfold projectFillEconomics routeFill at hprojected
  rw [hroute] at hprojected
  have hafter := (Prod.mk.inj (Except.ok.inj hprojected)).1
  have hfields : after.position = before.position ∧ after.positions = before.positions ∧
      after.orders = before.orders ∧ after.intents = before.intents ∧
      after.fills = before.fills.filter (·.economicsAppliedAt.isSome) ++
        [{ fill with economicsAppliedAt := some now }] := by
    rw [← hafter, ← hothers, hrouted]
    exact ⟨rfl, rfl, rfl, rfl, rfl⟩
  obtain ⟨hposition, hpositions, horders, hintents, hfills⟩ := hfields
  refine ⟨order, managed, hproven, hprior, hposition, hpositions, ?_⟩
  intro left hleft
  have hside : ∀ fills fills', managedFillSide { after with fills := fills } =
      managedFillSide { before with fills := fills' } := by
    intro fills fills'
    funext seen row
    simp only [managedFillSide, horders, hintents, hrow.id, hrow.productId]
  rw [provenManaged, managedSignedBase, hfills] at hleft
  simp only [List.filter_append, List.filter_filter, Bool.and_self, List.filter_cons,
    Option.isSome_some, if_true, List.filter_nil] at hleft
  obtain ⟨seen, hconcat⟩ := managedSignedLoop_concat (hside _ _) _ [] 0
  rw [hconcat, show managedSignedLoop _ _ [] 0 = some managed from hprior, Option.bind_some,
    Option.map_eq_some_iff] at hleft
  obtain ⟨side, hmanaged, rfl⟩ := hleft
  simp only [managedFillSide, horders, hstored] at hmanaged
  obtain ⟨_, hstored', hmanaged⟩ := Option.bind_eq_some_iff.mp hmanaged
  obtain rfl := Option.some.inj hstored'
  obtain ⟨intent, -, hguards⟩ := Option.bind_eq_some_iff.mp hmanaged
  obtain ⟨-, hside⟩ := of_ite_ne hguards nofun
  rw [Option.some.inj hside]

/-! ## Runs -/

/-- The excess is a budget: the repairs of a run together take at most what was proven before the
first one, move the managed quantity toward zero by what they take and never past it, and leave the
projected book alone. -/
theorem RepairRun.within_excess {fills : List Fill} (h : RepairRun before fills after) :
    after.position = before.position ∧ after.positions = before.positions ∧
    ∀ managed, provenManaged before = some managed →
      (fills.map (·.quantity)).sum ≤ excessQuantity before managed ∧
      ∀ left, provenManaged after = some left →
        left ∈ Set.uIcc 0 managed ∧ |left| = |managed| - (fills.map (·.quantity)).sum := by
  induction h with
  | done book =>
    refine ⟨rfl, rfl, fun managed hmanaged => ⟨?_, fun left hleft => ?_⟩⟩
    · rw [excessQuantity_eq]
      exact le_max_left _ _
    · cases hmanaged.symm.trans hleft
      simp
  | @step before next after fill rest hrepair hrest ih =>
    obtain ⟨order, managed, hproven, hbefore, hposition, hpositions, hnext⟩ := hrepair.spec
    refine ⟨ih.1.trans hposition, ih.2.1.trans hpositions, fun managed' hmanaged' => ?_⟩
    obtain rfl := Option.some.inj (hbefore.symm.trans hmanaged')
    rw [List.map_cons, List.sum_cons]
    have hspends := hproven.spends rfl hposition
    constructor
    · cases hrest with
      | done => simpa using hproven.quantity.2
      | step hsecond _ =>
        obtain ⟨-, middle, -, hmiddle, -⟩ := hsecond.spec
        have hrest := (ih.2.2 middle hmiddle).1
        rw [hnext middle hmiddle, hspends.2.2] at hrest
        linarith
    · intro left hleft
      obtain ⟨middle, hmiddle⟩ : ∃ middle, provenManaged next = some middle := by
        cases hrest with
        | done => exact ⟨left, hleft⟩
        | step hsecond _ =>
          obtain ⟨-, middle, -, hmiddle, -⟩ := hsecond.spec
          exact ⟨middle, hmiddle⟩
      obtain ⟨hbetween, habs⟩ := (ih.2.2 middle hmiddle).2 left hleft
      rw [hnext middle hmiddle] at hbetween habs
      refine ⟨Set.uIcc_subset_uIcc Set.left_mem_uIcc hspends.1 hbetween, ?_⟩
      rw [habs, hspends.2.1, sub_sub]

def flipOrder (id : Uuid) (side : OrderSide) : Order :=
  { sampleOrder id side with
    intentId := 5
    clientOrderId := "00000000-0000-0000-0000-000000000001:liquidation:1"
    productId := "BIP-20DEC30-CDE" }

/-- A flat live book whose fills sold two contracts, and an order that buys one back. -/
def flippedSnapshot : DeploymentSnapshot :=
  { deployment := { sampleDeployment with mode := .live, productId := "BIP-20DEC30-CDE" }
    orders := [flipOrder 5 .sell, flipOrder 6 .buy]
    fills := [{ sampleFill 10 "v1" 2 with economicsAppliedAt := some 0 }]
    intents := [
      { id := 5
        deploymentId := 1
        clientOrderId := (flipOrder 5 .sell).clientOrderId
        purpose := .liquidation
        side := .sell
        kind := .marketable
        quantity := 2
        createdAt := 0
        candleStartsAt := 0
        idempotencyKey := some "futures-flip:1" }] }

def flipFill (id : Uuid) (venueFillId : String) : Fill :=
  { sampleFill id venueFillId 1 with orderId := 6 }

def afterFlip (before : DeploymentSnapshot) (fill : Fill) : DeploymentSnapshot :=
  ((projectFillEconomics before fill (flipOrder 6 .buy) 0 none 7 7).toOption.map Prod.fst).getD before

theorem repair_flip
    (hpending : ∀ row ∈ before.fills, row.id = fill.id → row.economicsAppliedAt = none)
    (horder : lastOrder? before.orders fill.orderId = some (flipOrder 6 .buy))
    (hreduction : (projectExcessReduction before fill (flipOrder 6 .buy) 7).toOption.any
      (·.isSome) = true)
    (hprojected : (projectFillEconomics before fill (flipOrder 6 .buy) 0 none 7 7).toOption.isSome =
      true) : Repair before fill (afterFlip before fill) := by
  obtain ⟨repaired, hrepaired, hsome⟩ := exists_eq_ok_of_any hreduction
  obtain ⟨reduced, rfl⟩ := Option.isSome_iff_exists.mp hsome
  obtain ⟨⟨after, stamped⟩, hafter⟩ := exists_eq_ok hprojected
  have hflip : afterFlip before fill = after := by
    rw [afterFlip, hafter]
    rfl
  exact ⟨hpending, flipOrder 6 .buy, 7, 0, none, 7, stamped, horder, ⟨reduced, hrepaired⟩,
    hflip ▸ hafter⟩

/-- The two contracts are bought back one by one. -/
theorem RepairRun.within_excess_flip :
    let fills := [flipFill 11 "v2", flipFill 12 "v3"]
    ∃ after, RepairRun flippedSnapshot fills after ∧ after.position = none ∧
      (fills.map (·.quantity)).sum ≤ excessQuantity flippedSnapshot (-2) ∧
      ∀ left, provenManaged after = some left → left ∈ Set.uIcc 0 (-2) := by
  have hfirst : Repair flippedSnapshot (flipFill 11 "v2") _ :=
    repair_flip (by decide +kernel) rfl (by decide +kernel) (by decide +kernel)
  have hsecond : Repair (afterFlip flippedSnapshot (flipFill 11 "v2")) (flipFill 12 "v3") _ :=
    repair_flip (by decide +kernel) (by decide +kernel) (by decide +kernel) (by decide +kernel)
  have hrun := RepairRun.step hfirst (.step hsecond (.done _))
  have hwithin := RepairRun.within_excess hrun
  obtain ⟨hexcess, hleft⟩ := hwithin.2.2 (-2) (by decide +kernel)
  exact ⟨_, hrun, hwithin.1, hexcess, fun left h => (hleft left h).1⟩

end Thytrader.Trading
