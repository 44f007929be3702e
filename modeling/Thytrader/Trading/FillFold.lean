import Thytrader.Trading.LotSteps
import Mathlib.Tactic.LinearCombination

/-!
# The fill fold: its cash identity and its mirror

`_fold_fills` books a list of fills with two hand-written functions, one for buys and one for
sells. While no fill over-closes the lot, the fold satisfies

  cash + quantity · entry price = starting cash + realized − attached fees

and folding the mirrored history (sides swapped, prices reflected) gives the mirrored lot
(`over_close_clipped_and_mirrored_iff`).

A closing fill larger than the lot is where the two functions part. `_fold_buy` clips it to the
open quantity; `_fold_sell` does not, so it books the profit, the fee and the released entry fees
of the whole fill.
-/

namespace Thytrader.Trading

open List
open LotState LedgerFill

/-! ## The replayed cash -/

/-- The cash step of the loop of `_fold_fills`. -/
def foldCash (cash : Decimal) (fill : LedgerFill) : Decimal :=
  match fill.side with
  | .buy => cash - (fill.price * fill.quantity + fill.fee)
  | .sell => cash + (fill.price * fill.quantity - fill.fee)

/-- The cash the loop of `_fold_fills` ends with. -/
def replayedCash (startingCash : Decimal) (fills : List LedgerFill) : Decimal :=
  fills.foldl foldCash startingCash

theorem foldCash_eq (cash : Decimal) (fill : LedgerFill) :
    foldCash cash fill = cash + fill.cashDelta := by
  unfold foldCash LedgerFill.cashDelta LedgerFill.signed OrderSide.signed
  cases fill.side with
  | buy | sell => ring

theorem replayedCash_eq (startingCash : Decimal) (fills : List LedgerFill) :
    replayedCash startingCash fills = startingCash + (fills.map LedgerFill.cashDelta).sum := by
  unfold replayedCash
  induction fills generalizing startingCash with
  | nil => simp
  | cons _ _ ih =>
    rw [foldl_cons, ih, foldCash_eq, map_cons, sum_cons, add_assoc]

/-- Each turn of the loop adds one equity: the replayed cash and the lot at the fill's price. -/
theorem foldFillsFrom_cons (lot : LotState) (cash : Decimal) (equities : List Decimal)
    (fill : LedgerFill) (rest : List LedgerFill) :
    foldFillsFrom lot cash equities (fill :: rest) =
      (foldFill lot fill).bind (fun next => foldFillsFrom next (foldCash cash fill)
        (equities ++ [foldCash cash fill + next.quantity * fill.price]) rest) := rfl

variable {fills : List LedgerFill}

theorem foldFillsFrom_equity {lot last : LotState} {cash : Decimal} {equities all : List Decimal}
    (h : foldFillsFrom lot cash equities fills = .ok (last, all)) :
    ∀ fill ∈ fills.getLast?,
      all.getLast? = some (replayedCash cash fills + last.quantity * fill.price) := by
  induction fills generalizing lot cash equities with
  | nil =>
    intro fill hfill
    cases hfill
  | cons first rest ih =>
    rw [foldFillsFrom_cons] at h
    cases hnext : foldFill lot first with
    | error =>
      rw [hnext] at h
      exact absurd h (by simp [Except.bind])
    | ok =>
      rw [hnext] at h
      cases rest with
      | nil =>
        cases h
        intro fill hfill
        cases hfill
        exact getLast?_concat
      | cons =>
        intro fill hfill
        exact ih h fill (by simpa using hfill)

/-! ## The identity -/

/-- Fills that never over-close leave a lot whose cost is the cash they took. -/
theorem foldFills_identity (startingCash : Decimal) {fills : List LedgerFill}
    (hpos : ∀ fill ∈ fills, 0 < fill.quantity) (hwithin : NeverOverCloses 0 fills) :
    ∃ lot equities, foldFills startingCash fills = .ok (lot, equities) ∧
      (∀ fill ∈ fills.getLast?,
        equities.getLast? = some (replayedCash startingCash fills + lot.quantity * fill.price)) ∧
      replayedCash startingCash fills + lot.quantity * lot.entryPrice.getD 0 =
        startingCash + lot.realized - lot.entryFees ∧
      (lot.quantity ≠ 0 → lot.entryPrice.isSome) ∧
      lot.quantity = (fills.map LedgerFill.signed).sum ∧
      (lot.quantity = 0 → lot.entryFees = 0 ∧
        lot.realized = replayedCash startingCash fills - startingCash) := by
  obtain ⟨lot, hfold, hwf, hquantity, hcost⟩ := foldlM_within hpos empty_wf hwithin
  obtain ⟨equities, hequities⟩ := foldFills_eq_ok startingCash hfold
  have hcash := replayedCash_eq startingCash fills
  have hidentity : replayedCash startingCash fills + lot.quantity * lot.entryPrice.getD 0 =
      startingCash + lot.realized - lot.entryFees := by
    have hempty : LotState.empty.cost = 0 := by
      simp [cost, basis, LotState.empty]
    rw [hempty, zero_sub] at hcost
    unfold LotState.cost LotState.basis at hcost
    linarith
  refine ⟨lot, equities, hequities, foldFillsFrom_equity hequities, hidentity, ?_, ?_, ?_⟩
  · intro hopen
    obtain ⟨price, hprice⟩ := hwf.entry hopen
    rw [hprice, Option.isSome_some]
  · rw [hquantity]
    exact zero_add _
  · intro hflat
    have hfees := hwf.flat hflat
    rw [hflat, hfees] at hidentity
    exact ⟨hfees, by linarith⟩

/-! ## An over-closing fill -/

structure OverCloses (lot : LotState) (fill : LedgerFill) : Prop where
  against : lot.quantity * fill.signed < 0
  larger : |lot.quantity| < fill.quantity

section

variable {lot : LotState} {fill : LedgerFill} {entry : Decimal}

theorem OverCloses.pos (h : OverCloses lot fill) : 0 < fill.quantity :=
  (abs_nonneg lot.quantity).trans_lt h.larger

theorem OverCloses.short (h : OverCloses lot fill) (hs : fill.side = .buy) :
    lot.quantity < 0 := by
  have hagainst := h.against
  unfold signed at hagainst
  rw [hs] at hagainst
  by_contra hlong
  exact absurd hagainst (mul_nonneg (not_lt.mp hlong) h.pos.le).not_gt

theorem OverCloses.long (h : OverCloses lot fill) (hs : fill.side = .sell) :
    0 < lot.quantity := by
  have hagainst := h.against
  unfold signed at hagainst
  rw [hs] at hagainst
  by_contra hshort
  exact absurd hagainst
    (mul_nonneg_of_nonpos_of_nonpos (not_lt.mp hshort) (neg_nonpos.mpr h.pos.le)).not_gt

end

/-! ## Clipping -/

def unitProfit (entry : Decimal) (fill : LedgerFill) : Decimal :=
  match fill.side with
  | .buy => entry - fill.price
  | .sell => fill.price - entry

/-- The parts book the open quantity and no more. -/
structure ClosingParts.Clipped (parts : ClosingParts) (lot : LotState) (entry : Decimal)
    (fill : LedgerFill) : Prop where
  grossProfit : parts.grossProfit = unitProfit entry fill * |lot.quantity|
  exitFee : parts.exitFee = fill.fee * (|lot.quantity| / fill.quantity)
  releasedEntryFees : parts.releasedEntryFees ≤ lot.entryFees

def ClipsFill (lot : LotState) (entry : Decimal) (fill : LedgerFill) : Prop :=
  ∃ parts next, closingParts lot entry fill = .ok parts ∧ foldFill lot fill = .ok next ∧
    next.realized = lot.realized +
      (parts.grossProfit - parts.exitFee - parts.releasedEntryFees) ∧
    parts.Clipped lot entry fill

section

variable {lot : LotState} {fill : LedgerFill} {entry : Decimal}

theorem OverCloses.cover (h : OverCloses lot fill) (hs : fill.side = .buy) :
    coverParts lot entry fill = .ok ⟨(entry - fill.price) * -lot.quantity,
      fill.fee * (-lot.quantity / fill.quantity), lot.entryFees⟩ := by
  have hshort := h.short hs
  have hlarger := h.larger
  rw [abs_of_neg hshort] at hlarger
  have hneg : -lot.quantity ≠ 0 := neg_ne_zero.mpr hshort.ne
  simp only [coverParts, min_eq_right hlarger.le, divide_of_ne hneg, divide_of_ne h.pos.ne']
  refine congrArg Except.ok (ClosingParts.mk.injEq .. ▸ ⟨?_, ?_, ?_⟩)
  · ring
  · exact mul_div_assoc _ _ _
  · exact mul_div_cancel_right₀ _ hneg

theorem OverCloses.sale (h : OverCloses lot fill) (hs : fill.side = .sell) :
    closeParts lot entry fill = .ok ⟨(fill.price - entry) * fill.quantity, fill.fee,
      lot.entryFees * (fill.quantity / lot.quantity)⟩ := by
  have hlong := h.long hs
  simp only [closeParts, divide_of_ne hlong.ne']
  refine congrArg Except.ok (ClosingParts.mk.injEq .. ▸ ⟨?_, rfl, ?_⟩)
  · ring
  · exact mul_div_assoc _ _ _

theorem OverCloses.fold (h : OverCloses lot fill) (hentry : lot.entryPrice = some entry) :
    ∃ parts, closingParts lot entry fill = .ok parts ∧
      foldFill lot fill = .ok (lot.booked fill parts).flatten := by
  have hlarger := h.larger
  cases hs : fill.side with
  | buy =>
    obtain ⟨parts, hparts, hfold⟩ := foldBuy_books hentry hs (h.short hs) h.pos
    rw [abs_of_neg (h.short hs)] at hlarger
    refine ⟨parts, by simpa only [closingParts, hs] using hparts, ?_⟩
    simp only [foldFill, hs]
    rw [hfold, if_pos (by linarith)]
  | sell =>
    obtain ⟨parts, hparts, hfold⟩ := foldSell_books hentry hs (h.long hs)
    rw [abs_of_pos (h.long hs)] at hlarger
    refine ⟨parts, by simpa only [closingParts, hs] using hparts, ?_⟩
    simp only [foldFill, hs]
    rw [hfold, if_pos (by linarith)]

/-- Clipping, by side: every over-closing cover is clipped; a sale only when it books
nothing that clipping would change. -/
theorem clipsFill_iff (hentry : lot.entryPrice = some entry) (h : OverCloses lot fill) :
    ClipsFill lot entry fill ↔
      fill.side = .buy ∨ fill.price = entry ∧ fill.fee = 0 ∧ lot.entryFees ≤ 0 := by
  obtain ⟨parts, hparts, hfold⟩ := h.fold hentry
  have hclips : ClipsFill lot entry fill ↔ parts.Clipped lot entry fill := by
    constructor
    · intro hclips
      obtain ⟨other, next, hother, -, -, hclipped⟩ := hclips
      cases hparts.symm.trans hother
      exact hclipped
    · exact fun hclipped => ⟨parts, _, hparts, hfold, rfl, hclipped⟩
  rw [hclips]
  unfold closingParts at hparts
  cases hs : fill.side with
  | buy =>
    rw [hs, h.cover hs] at hparts
    cases hparts
    refine iff_of_true ⟨?_, ?_, le_rfl⟩ (.inl rfl)
    · simp only [unitProfit, hs, abs_of_neg (h.short hs)]
    · simp only [abs_of_neg (h.short hs)]
  | sell =>
    have hlong := h.long hs
    have hlarger := h.larger
    rw [abs_of_pos hlong] at hlarger
    have hmore : 0 < fill.quantity - lot.quantity := sub_pos.mpr hlarger
    rw [hs, h.sale hs] at hparts
    cases hparts
    constructor
    · intro hclipped
      obtain ⟨hgross, hfee, hreleased⟩ := hclipped
      simp only [unitProfit, hs, abs_of_pos hlong] at hgross hfee hreleased
      refine .inr ⟨?_, ?_, ?_⟩
      · have hzero : (fill.price - entry) * (fill.quantity - lot.quantity) = 0 := by
          linear_combination hgross
        exact sub_eq_zero.mp ((mul_eq_zero.mp hzero).resolve_right hmore.ne')
      · have hzero : fill.fee * (fill.quantity - lot.quantity) = 0 := by
          have hpos := h.pos.ne'
          field_simp at hfee
          linear_combination hfee
        exact (mul_eq_zero.mp hzero).resolve_right hmore.ne'
      · by_contra hfees
        have hfees := not_le.mp hfees
        have hone : 1 < fill.quantity / lot.quantity := (one_lt_div hlong).mpr hlarger
        exact absurd hreleased (lt_mul_of_one_lt_right hfees hone).not_ge
    · intro hnothing
      obtain hbuy | ⟨hprice, hfee, hfees⟩ := hnothing
      · exact absurd hbuy (by decide)
      · have hone : 1 ≤ fill.quantity / lot.quantity := (one_le_div hlong).mpr hlarger.le
        refine ⟨?_, ?_, mul_le_of_one_le_right hfees hone⟩
        · simp [unitProfit, hs, hprice]
        · simp [hfee]

end

/-! ## The mirror -/

def OrderSide.opposite : OrderSide → OrderSide
  | .buy => .sell
  | .sell => .buy

/-- The fill on the other side, its price reflected: `level` is mirrored to zero. -/
def LedgerFill.mirror (level : Decimal) (fill : LedgerFill) : LedgerFill :=
  { fill with side := fill.side.opposite, price := level - fill.price }

/-- The lot held the other way round, its entry price reflected. -/
def LotState.mirror (level : Decimal) (lot : LotState) : LotState :=
  { lot with
    quantity := -lot.quantity
    entryPrice := lot.entryPrice.map (fun price => level - price) }

section

variable {lot : LotState} {fill : LedgerFill} {entry : Decimal} (level : Decimal)

theorem LedgerFill.mirror_signed : (fill.mirror level).signed = -fill.signed := by
  unfold signed mirror OrderSide.signed OrderSide.opposite
  cases fill.side with
  | buy => rfl
  | sell => exact (neg_neg _).symm

theorem LedgerFill.mirror_mirror : (fill.mirror level).mirror level = fill := by
  obtain ⟨side, -⟩ := fill
  cases side with
  | buy | sell => simp [mirror, OrderSide.opposite]

theorem LotState.mirror_mirror : (lot.mirror level).mirror level = lot := by
  obtain ⟨-, entryPrice, -⟩ := lot
  cases entryPrice with
  | none | some => simp [mirror]

theorem LotState.mirror_entry (hentry : lot.entryPrice = some entry) :
    (lot.mirror level).entryPrice = some (level - entry) :=
  congrArg (Option.map (level - ·)) hentry

theorem LotState.mirror_empty : LotState.empty.mirror level = LotState.empty := by
  simp [mirror, LotState.empty]

theorem LotState.Wf.mirror (wf : lot.Wf) : (lot.mirror level).Wf := by
  constructor
  · exact fun hflat => wf.flat (neg_eq_zero.mp hflat)
  · intro hopen
    obtain ⟨price, hprice⟩ := wf.entry (fun hflat => hopen (neg_eq_zero.mpr hflat))
    exact ⟨level - price, by simp [LotState.mirror, hprice]⟩

theorem OverCloses.mirror (h : OverCloses lot fill) :
    OverCloses (lot.mirror level) (fill.mirror level) := by
  constructor
  · rw [LedgerFill.mirror_signed]
    simpa [LotState.mirror] using h.against
  · simpa [LotState.mirror, LedgerFill.mirror] using h.larger

theorem closesWithin_mirror :
    closesWithin (lot.mirror level).quantity (fill.mirror level) ↔
      closesWithin lot.quantity fill := by
  unfold closesWithin
  rw [LedgerFill.mirror_signed]
  simp only [LotState.mirror]
  rw [← neg_add, neg_mul_neg]

theorem foldSell_mirror_add (hentry : lot.entryPrice = some entry)
    (hlong : 0 < lot.quantity) (hpos : 0 < fill.quantity) :
    foldSell (lot.mirror level) (fill.mirror level) =
      (foldBuy lot fill).map (LotState.mirror level) := by
  have hsum : lot.quantity + fill.quantity ≠ 0 := (add_pos hlong hpos).ne'
  have hshort : -lot.quantity < 0 := neg_lt_zero.mpr hlong
  have hprice : ((level - entry) * lot.quantity + (level - fill.price) * fill.quantity) /
      (lot.quantity + fill.quantity) =
      level - (entry * lot.quantity + fill.price * fill.quantity) /
        (lot.quantity + fill.quantity) := by
    field_simp
    ring
  simp only [foldBuy, foldSell, LotState.mirror, LedgerFill.mirror, hentry, if_neg hlong.ne',
    if_pos hlong, if_neg hshort.ne, if_pos hshort, neg_neg, Option.map_some, Option.getD_some,
    divide_of_ne hsum, hprice]
  simp only [bind, Except.bind, pure, Except.pure, Except.map]
  simp only [LotState.mirror, Option.map_some, neg_add, ← sub_eq_add_neg]

theorem coverParts_mirror (hlong : 0 < lot.quantity) (hpos : 0 < fill.quantity)
    (hwithin : fill.quantity ≤ lot.quantity) :
    coverParts (lot.mirror level) (level - entry) (fill.mirror level) =
      closeParts lot entry fill := by
  have hmin : min fill.quantity (- -lot.quantity) = fill.quantity := by
    rw [neg_neg]
    exact min_eq_left hwithin
  simp only [coverParts, closeParts, LotState.mirror, LedgerFill.mirror, hmin]
  simp only [neg_neg, divide_of_ne hlong.ne', divide_of_ne hpos.ne']
  refine congrArg Except.ok (ClosingParts.mk.injEq .. ▸ ⟨?_, ?_, rfl⟩)
  · ring
  · exact mul_div_cancel_right₀ _ hpos.ne'

/-- Closing a long within the lot mirrors covering a short. -/
theorem foldBuy_mirror_close (hs : fill.side = .sell) (hentry : lot.entryPrice = some entry)
    (hlong : 0 < lot.quantity) (hpos : 0 < fill.quantity) (hwithin : fill.quantity ≤ lot.quantity) :
    foldBuy (lot.mirror level) (fill.mirror level) =
      (foldSell lot fill).map (LotState.mirror level) := by
  have hbuy : (fill.mirror level).side = .buy := congrArg OrderSide.opposite hs
  have hmirrored := LotState.mirror_entry level hentry
  obtain ⟨parts, hparts, hsell⟩ := foldSell_books hentry hs hlong
  obtain ⟨covered, hcovered, hcover⟩ := foldBuy_books hmirrored hbuy
    (neg_lt_zero.mpr hlong) (show 0 < (fill.mirror level).quantity from hpos)
  rw [coverParts_mirror level hlong hpos hwithin, hparts] at hcovered
  cases hcovered
  rw [hcover, hsell]
  have hbooked : (lot.mirror level).booked (fill.mirror level) parts =
      (lot.booked fill parts).mirror level := by
    simp only [LotState.booked, LedgerFill.mirror_signed]
    simp only [LotState.mirror, neg_add]
  have hflat : (0 ≤ (lot.mirror level).quantity + (fill.mirror level).quantity) ↔
      lot.quantity - fill.quantity ≤ 0 := by
    change 0 ≤ -lot.quantity + fill.quantity ↔ _
    constructor
    · intro hover
      linarith
    · intro hover
      linarith
  rw [hbooked]
  by_cases hdone : lot.quantity - fill.quantity ≤ 0
  · rw [if_pos hdone, if_pos (hflat.mpr hdone)]
    simp [Except.map, LotState.flatten, LotState.mirror]
  · rw [if_neg hdone, if_neg (fun h => hdone (hflat.mp h))]
    rfl

theorem foldFill_mirror_long (wf : lot.Wf) (hlong : 0 < lot.quantity) (hpos : 0 < fill.quantity)
    (hwithin : closesWithin lot.quantity fill) :
    foldFill (lot.mirror level) (fill.mirror level) =
      (foldFill lot fill).map (LotState.mirror level) := by
  obtain ⟨entry, hentry⟩ := wf.entry hlong.ne'
  cases hs : fill.side with
  | buy =>
    have hsell : (fill.mirror level).side = .sell := congrArg OrderSide.opposite hs
    simp only [foldFill, hs, hsell]
    exact foldSell_mirror_add level hentry hlong hpos
  | sell =>
    have hbuy : (fill.mirror level).side = .buy := congrArg OrderSide.opposite hs
    simp only [foldFill, hs, hbuy]
    refine foldBuy_mirror_close level hs hentry hlong hpos ?_
    unfold closesWithin LedgerFill.signed at hwithin
    rw [hs] at hwithin
    have hleft := nonneg_of_mul_nonneg_right hwithin hlong
    change 0 ≤ lot.quantity + -fill.quantity at hleft
    linarith

theorem foldFill_mirror (wf : lot.Wf) (hpos : 0 < fill.quantity)
    (hwithin : closesWithin lot.quantity fill) :
    foldFill (lot.mirror level) (fill.mirror level) =
      (foldFill lot fill).map (LotState.mirror level) := by
  obtain hshort | hflat | hlong := lt_trichotomy lot.quantity 0
  · -- the mirrored lot is long: mirror it back
    have hback := foldFill_mirror_long level (wf.mirror level)
      (show 0 < -lot.quantity from neg_pos.mpr hshort)
      (show 0 < (fill.mirror level).quantity from hpos)
      ((closesWithin_mirror level).mpr hwithin)
    rw [LotState.mirror_mirror, LedgerFill.mirror_mirror] at hback
    rw [hback]
    cases foldFill (lot.mirror level) (fill.mirror level) with
    | error => rfl
    | ok =>
      simp only [Except.map, LotState.mirror_mirror]
  · cases hs : fill.side with
    | buy | sell =>
      simp [foldFill, foldBuy, foldSell, LedgerFill.mirror, OrderSide.opposite, hs, hflat,
        LotState.mirror, LotState.opened, Except.map]
  · exact foldFill_mirror_long level wf hlong hpos hwithin

theorem foldlM_mirror (hpos : ∀ fill ∈ fills, 0 < fill.quantity) (wf : lot.Wf)
    (hwithin : NeverOverCloses lot.quantity fills) :
    (fills.map (LedgerFill.mirror level)).foldlM foldFill (lot.mirror level) =
      (fills.foldlM foldFill lot).map (LotState.mirror level) := by
  induction fills generalizing lot with
  | nil => rfl
  | cons fill _ ih =>
    obtain ⟨hfill, hrest⟩ := hwithin
    have hfirst := hpos fill mem_cons_self
    obtain ⟨next, hnext, hbooked⟩ := foldFill_within wf hfirst hfill
    rw [← hbooked.quantity] at hrest
    have hmirror := foldFill_mirror level wf hfirst hfill
    rw [map_cons, foldlM_cons, foldlM_cons, hmirror, hnext]
    exact ih (fun f hf => hpos f (mem_cons_of_mem _ hf)) hbooked.wf hrest

/-! ## The mirror of an over-closing fill -/

def MirroredProfit (lot : LotState) (fill : LedgerFill) : Prop :=
  ∃ next other, foldFill lot fill = .ok next ∧
    foldFill (lot.mirror level) (fill.mirror level) = .ok other ∧
    other.realized = next.realized

def MirroredHistory (fills : List LedgerFill) : Prop :=
  ∃ last other, fills.foldlM foldFill .empty = .ok last ∧
    (fills.map (LedgerFill.mirror level)).foldlM foldFill .empty = .ok other ∧
    other.realized = last.realized

theorem OverCloses.sale_realized (h : OverCloses lot fill) (hs : fill.side = .sell)
    (hentry : lot.entryPrice = some entry) :
    ∃ next, foldFill lot fill = .ok next ∧ next.realized = lot.realized +
      ((fill.price - entry) * fill.quantity - fill.fee -
        lot.entryFees * (fill.quantity / lot.quantity)) := by
  obtain ⟨parts, hparts, hfold⟩ := h.fold hentry
  simp only [closingParts, hs] at hparts
  rw [h.sale hs] at hparts
  cases hparts
  exact ⟨_, hfold, rfl⟩

theorem OverCloses.cover_realized (h : OverCloses lot fill) (hs : fill.side = .buy)
    (hentry : lot.entryPrice = some entry) :
    ∃ next, foldFill lot fill = .ok next ∧ next.realized = lot.realized +
      ((entry - fill.price) * -lot.quantity - fill.fee * (-lot.quantity / fill.quantity) -
        lot.entryFees) := by
  obtain ⟨parts, hparts, hfold⟩ := h.fold hentry
  simp only [closingParts, hs] at hparts
  rw [h.cover hs] at hparts
  cases hparts
  exact ⟨_, hfold, rfl⟩

theorem OverCloses.sale_mirrored (h : OverCloses lot fill) (hs : fill.side = .sell)
    (hentry : lot.entryPrice = some entry) :
    MirroredProfit level lot fill ↔
      fill.price - entry = fill.fee / fill.quantity + lot.entryFees / lot.quantity := by
  have hlong := h.long hs
  have hlarger := h.larger
  rw [abs_of_pos hlong] at hlarger
  have hmore : fill.quantity - lot.quantity ≠ 0 := (sub_pos.mpr hlarger).ne'
  have hpos := h.pos.ne'
  have hbuy : (fill.mirror level).side = .buy := congrArg OrderSide.opposite hs
  have hmirrored := LotState.mirror_entry level hentry
  obtain ⟨next, hnext, hrealized⟩ := h.sale_realized hs hentry
  obtain ⟨other, hother, hcovered⟩ := (h.mirror level).cover_realized hbuy hmirrored
  simp only [LotState.mirror, LedgerFill.mirror, neg_neg] at hcovered
  have hiff : MirroredProfit level lot fill ↔ other.realized = next.realized := by
    constructor
    · intro hsame
      obtain ⟨first, second, hfirst, hsecond, hsame⟩ := hsame
      rw [Except.ok.inj (hnext.symm.trans hfirst), Except.ok.inj (hother.symm.trans hsecond)]
      exact hsame
    · exact fun hsame => ⟨next, other, hnext, hother, hsame⟩
  -- what the sale books beyond the cover, a unit at a time
  have hgap : next.realized - other.realized = (fill.quantity - lot.quantity) *
      (fill.price - entry - (fill.fee / fill.quantity + lot.entryFees / lot.quantity)) := by
    rw [hrealized, hcovered]
    field_simp
    ring
  have hzero : other.realized = next.realized ↔ next.realized - other.realized = 0 := by
    rw [sub_eq_zero, eq_comm]
  rw [hiff, hzero, hgap, mul_eq_zero, or_iff_right hmore, sub_eq_zero]

theorem mirroredProfit_mirror :
    MirroredProfit level (lot.mirror level) (fill.mirror level) ↔
      MirroredProfit level lot fill := by
  unfold MirroredProfit
  rw [LotState.mirror_mirror, LedgerFill.mirror_mirror]
  constructor
  · intro h
    obtain ⟨other, next, hother, hnext, hsame⟩ := h
    exact ⟨next, other, hnext, hother, hsame.symm⟩
  · intro h
    obtain ⟨next, other, hnext, hother, hsame⟩ := h
    exact ⟨other, next, hother, hnext, hsame.symm⟩

theorem mirroredProfit_iff (hentry : lot.entryPrice = some entry) (h : OverCloses lot fill) :
    MirroredProfit level lot fill ↔
      unitProfit entry fill = fill.fee / fill.quantity + lot.entryFees / |lot.quantity| := by
  cases hs : fill.side with
  | buy =>
    have hsell : (fill.mirror level).side = .sell := congrArg OrderSide.opposite hs
    have hmirrored := LotState.mirror_entry level hentry
    rw [← mirroredProfit_mirror, (h.mirror level).sale_mirrored level hsell hmirrored]
    simp only [unitProfit, hs, abs_of_neg (h.short hs), LotState.mirror, LedgerFill.mirror,
      sub_sub_sub_cancel_left]
  | sell =>
    rw [h.sale_mirrored level hs hentry]
    simp only [unitProfit, hs, abs_of_pos (h.long hs)]

theorem foldlM_one (lot : LotState) (fill : LedgerFill) :
    [fill].foldlM foldFill lot = foldFill lot fill := by
  rw [foldlM_cons]
  cases foldFill lot fill with
  | error | ok => rfl

theorem mirroredHistory_iff (hpos : ∀ fill ∈ fills, 0 < fill.quantity)
    (hwithin : NeverOverCloses 0 fills) (hfold : fills.foldlM foldFill .empty = .ok lot) :
    MirroredHistory level (fills ++ [fill]) ↔ MirroredProfit level lot fill := by
  have hmirror := foldlM_mirror level hpos LotState.empty_wf hwithin
  rw [LotState.mirror_empty, hfold] at hmirror
  have hlast : (fills ++ [fill]).foldlM foldFill .empty = foldFill lot fill := by
    rw [foldlM_append, hfold]
    exact foldlM_one lot fill
  have hother : ((fills ++ [fill]).map (LedgerFill.mirror level)).foldlM foldFill .empty =
      foldFill (lot.mirror level) (fill.mirror level) := by
    rw [map_append, foldlM_append, hmirror]
    exact foldlM_one (lot.mirror level) (fill.mirror level)
  unfold MirroredHistory MirroredProfit
  rw [hlast, hother]

end

/-- One unit bought at 100 with a fee of 1. -/
def oneLong : LotState := ⟨1, some 100, 1, 0, 0⟩

/-- Two units sold at 110 with a fee of 2. -/
def oversizedSale : LedgerFill := ⟨.sell, 110, 2, 2, 1⟩

theorem oversizedSale_overCloses : OverCloses oneLong oversizedSale :=
  ⟨by decide +kernel, by decide +kernel⟩

end Thytrader.Trading
