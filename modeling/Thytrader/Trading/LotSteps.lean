import Thytrader.Trading.Ledger

/-!
# One fill on a lot

`_fold_fills` books every fill on one average-cost lot. A fill on the lot's own side averages its
price in (`Added`); a fill against it takes its share of basis and fees and books the rest of its
cash as profit (`Reduced`). While no fill over-closes the lot, both keep

  basis + entry fees − realized = − cash spent on its fills        (`LotState.cost`)

so `foldlM_within` gives it for a whole fold: the lot ends with the net of the fills, and its cost
is the cash they took.

Mirroring notes: `ClosingParts` names what a closing fill adds to the realized profit, in the order
the two functions compute it.
-/

namespace Thytrader.Trading

open Lib List Function LotState OrderSide

variable {lot : LotState} {fills : List LedgerFill} {position : Position}

/-! ## One lot -/

def LedgerFill.signed (fill : LedgerFill) : Decimal := fill.side.signed fill.quantity

/-- What a fill adds to cash: its notional, signed against inventory, less its fee. -/
def LedgerFill.cashDelta (fill : LedgerFill) : Decimal := -(fill.signed * fill.price + fill.fee)

def LotState.basis (lot : LotState) : Decimal := lot.quantity * lot.entryPrice.getD 0

/-- Money tied up in a lot: basis and attached fees, less the profit booked. -/
def LotState.cost (lot : LotState) : Decimal := lot.basis + lot.entryFees - lot.realized

/-- A flat lot carries no fees; an open one has an entry price. -/
structure LotState.Wf (lot : LotState) : Prop where
  flat : lot.quantity = 0 → lot.entryFees = 0
  entry : lot.quantity ≠ 0 → ∃ price, lot.entryPrice = some price

theorem LotState.empty_wf : LotState.empty.Wf :=
  ⟨fun _ => rfl, fun h => absurd rfl h⟩

/-- The fill closes part of the lot and leaves no inventory of the other side. -/
def closesWithin (quantity : Decimal) (fill : LedgerFill) : Prop :=
  0 ≤ quantity * (quantity + fill.signed)

instance (quantity : Decimal) (fill : LedgerFill) : Decidable (closesWithin quantity fill) :=
  inferInstanceAs (Decidable (_ ≤ _))

/-- What a fill on the lot's own side does, from either side. -/
structure Added (lot next : LotState) (fill : LedgerFill) : Prop where
  wf : next.Wf
  quantity : next.quantity = lot.quantity + fill.signed
  basis : next.basis = lot.basis + fill.signed * fill.price
  entryFees : next.entryFees = lot.entryFees + fill.fee
  realized : next.realized = lot.realized

variable {fill : LedgerFill}

/-- The lot is open at a price that carries the old basis and the fill's notional. -/
theorem averaged_added {average : Decimal} (hsum : lot.quantity + fill.signed ≠ 0)
    (h : (lot.quantity + fill.signed) * average = lot.basis + fill.signed * fill.price) :
    Added lot { lot with
      quantity := lot.quantity + fill.signed
      entryPrice := some average
      entryFees := lot.entryFees + fill.fee } fill :=
  ⟨⟨fun h => absurd h hsum, fun _ => ⟨_, rfl⟩⟩, rfl, h, rfl, rfl⟩

/-- Opening and adding: the basis grows by the fill's notional, nothing is realized. -/
theorem foldFill_add (wf : lot.Wf) (hpos : 0 < fill.quantity)
    (hside : 0 ≤ lot.quantity * fill.signed) :
    ∃ next, foldFill lot fill = .ok next ∧ Added lot next fill := by
  have hsum : lot.quantity + fill.signed ≠ 0 := by
    intro h
    have hne : fill.signed ≠ 0 := by
      unfold LedgerFill.signed
      cases fill.side <;> simp [signed, hpos.ne']
    rw [eq_neg_of_add_eq_zero_left h, neg_mul] at hside
    linarith [mul_self_pos.mpr hne]
  by_cases hzero : lot.quantity = 0
  · -- A flat lot takes the fill's price and fee as they are.
    have hadded := averaged_added hsum (show _ * fill.price = _ by simp [LotState.basis, hzero])
    rw [hzero, wf.flat hzero, zero_add, zero_add] at hadded
    refine ⟨_, ?_, hadded⟩
    cases hs : fill.side with
    | buy | sell =>
      simp [foldFill, hs, foldBuy, foldSell, hzero, LotState.opened, LedgerFill.signed, signed]
  · obtain ⟨entry, hentry⟩ := wf.entry hzero
    cases hs : fill.side with
    | buy =>
      have hsigned : fill.quantity = fill.signed := by rw [LedgerFill.signed, hs]; rfl
      rw [hsigned] at hpos
      have hlong := (nonneg_of_mul_nonneg_left hside hpos).lt_of_ne' hzero
      simp only [foldFill, hs, foldBuy, if_neg hzero, if_pos hlong, hsigned, divide_of_ne hsum]
      refine ⟨_, rfl, averaged_added hsum ?_⟩
      rw [mul_div_cancel₀ _ hsum, LotState.basis, hentry, Option.getD_some, Option.getD_some]
      ring
    | sell =>
      have hsigned : fill.quantity = -fill.signed := by rw [LedgerFill.signed, hs]; simp [signed]
      rw [hsigned] at hpos
      have hshort : lot.quantity < 0 :=
        (nonpos_of_mul_nonneg_left hside (neg_pos.mp hpos)).lt_of_ne hzero
      simp only [foldFill, hs, foldSell, if_neg hzero, if_pos hshort, hsigned, sub_neg_eq_add,
        ← neg_add, divide_of_ne (neg_ne_zero.mpr hsum)]
      refine ⟨_, rfl, averaged_added hsum ?_⟩
      rw [LotState.basis, hentry, Option.getD_some, Option.getD_some]
      field_simp
      ring

/-- The part of the lot a fill against its side closes. -/
def LotState.share (lot : LotState) (fill : LedgerFill) : Decimal := -fill.signed / lot.quantity

/-- A fill against the lot's side that does not over-close takes its share of basis and fees; the
rest of its cash is profit. -/
structure Reduced (lot next : LotState) (fill : LedgerFill) : Prop where
  wf : next.Wf
  quantity : next.quantity = lot.quantity + fill.signed
  basis : next.basis = lot.basis * (1 - lot.share fill)
  entryFees : next.entryFees = lot.entryFees * (1 - lot.share fill)
  realized : next.realized =
    lot.realized + fill.cashDelta - (lot.basis + lot.entryFees) * lot.share fill

/-! ## A closing fill in parts -/

/-- What a closing fill adds to the realized profit, as the two functions compute it. -/
structure ClosingParts where
  grossProfit : Decimal
  exitFee : Decimal
  releasedEntryFees : Decimal
  deriving DecidableEq

/-- The lines of `_fold_buy` that cover a short. -/
def coverParts (state : LotState) (entryPrice : Decimal) (fill : LedgerFill) :
    Result ClosingParts := do
  let covered := min fill.quantity (-state.quantity)
  let allocated ← divide (state.entryFees * covered) (-state.quantity)
  let feeShare ← divide (fill.fee * covered) fill.quantity
  return ⟨entryPrice * covered - fill.price * covered, feeShare, allocated⟩

/-- The lines of `_fold_sell` that close a long. -/
def closeParts (state : LotState) (entryPrice : Decimal) (fill : LedgerFill) :
    Result ClosingParts := do
  let allocated ← divide (state.entryFees * fill.quantity) state.quantity
  return ⟨fill.price * fill.quantity - entryPrice * fill.quantity, fill.fee, allocated⟩

def closingParts (state : LotState) (entryPrice : Decimal) (fill : LedgerFill) :
    Result ClosingParts :=
  match fill.side with
  | .buy => coverParts state entryPrice fill
  | .sell => closeParts state entryPrice fill

def LotState.booked (state : LotState) (fill : LedgerFill) (parts : ClosingParts) : LotState :=
  { state with
    quantity := state.quantity + fill.signed
    entryFees := state.entryFees - parts.releasedEntryFees
    realized := state.realized + (parts.grossProfit - parts.exitFee - parts.releasedEntryFees) }

section

variable {fill : LedgerFill} {entry : Decimal} (hentry : lot.entryPrice = some entry)
include hentry

theorem foldBuy_books (hs : fill.side = .buy) (hshort : lot.quantity < 0) (hpos : 0 < fill.quantity) :
    ∃ parts, coverParts lot entry fill = .ok parts ∧
      foldBuy lot fill = .ok (if 0 ≤ lot.quantity + fill.quantity then
        (lot.booked fill parts).flatten else lot.booked fill parts) := by
  have hneg : -lot.quantity ≠ 0 := neg_ne_zero.mpr hshort.ne
  refine ⟨_, by
    simp only [coverParts, divide_of_ne hneg, divide_of_ne hpos.ne']
    rfl, ?_⟩
  simp only [foldBuy, if_neg hshort.ne, if_neg hshort.not_gt, hentry, divide_of_ne hneg,
    divide_of_ne hpos.ne']
  simp only [LotState.booked, LedgerFill.signed, hs, signed, hentry]
  rfl

theorem foldSell_books (hs : fill.side = .sell) (hlong : 0 < lot.quantity) :
    ∃ parts, closeParts lot entry fill = .ok parts ∧
      foldSell lot fill = .ok (if lot.quantity - fill.quantity ≤ 0 then
        (lot.booked fill parts).flatten else lot.booked fill parts) := by
  refine ⟨_, by
    simp only [closeParts, divide_of_ne hlong.ne']
    rfl, ?_⟩
  simp only [foldSell, if_neg hlong.ne', if_neg hlong.not_gt, hentry, divide_of_ne hlong.ne',
    bind, Except.bind, pure, Except.pure]
  have hprofit : lot.realized +
      (fill.price * fill.quantity - fill.fee - entry * fill.quantity -
        lot.entryFees * fill.quantity / lot.quantity) =
      lot.realized + (fill.price * fill.quantity - entry * fill.quantity - fill.fee -
        lot.entryFees * fill.quantity / lot.quantity) := by ring
  simp only [LotState.booked, LedgerFill.signed, hs, signed, hentry,
    ← sub_eq_add_neg, add_sub_assoc, hprofit]

/-- A close within the lot books its share of it, or flattens a lot that it empties. -/
theorem booked_reduced (hzero : lot.quantity ≠ 0) {done : Prop} [Decidable done]
    (hdone : done ↔ lot.quantity + fill.signed = 0) {parts : ClosingParts}
    (hparts : parts = ⟨fill.signed * (entry - fill.price), fill.fee,
      lot.entryFees * lot.share fill⟩) :
    Reduced lot (if done then (lot.booked fill parts).flatten else lot.booked fill parts) fill := by
  subst hparts
  have hrealized : lot.realized + (fill.signed * (entry - fill.price) - fill.fee -
      lot.entryFees * lot.share fill) =
      lot.realized + fill.cashDelta - (lot.basis + lot.entryFees) * lot.share fill := by
    simp only [LedgerFill.cashDelta, LotState.basis, hentry, Option.getD_some, LotState.share]
    field_simp
    ring
  by_cases h : done
  · -- Closed exactly: the share is the whole lot, so every fee has been allocated.
    have hempty := hdone.mp h
    have hshare : lot.share fill = 1 := by
      rw [LotState.share, ← eq_neg_of_add_eq_zero_left hempty, div_self hzero]
    rw [if_pos h]
    refine ⟨⟨fun _ => rfl, fun h => absurd rfl h⟩, hempty.symm, ?_, ?_, hrealized⟩
    · simp [LotState.flatten, LotState.basis, hshare]
    · simp [LotState.flatten, hshare]
  · rw [if_neg h]
    refine ⟨⟨fun hflat => absurd (hdone.mpr hflat) h, fun _ => ⟨entry, hentry⟩⟩, rfl, ?_, ?_,
      hrealized⟩
    · simp only [LotState.booked, LotState.basis, hentry, Option.getD_some, LotState.share]
      field_simp
      ring
    · simp only [LotState.booked]
      ring

end

variable {next : LotState}

/-- Closing: a fill against the lot's side that stays within it. -/
theorem foldFill_reduce {fill : LedgerFill} (wf : lot.Wf) (hpos : 0 < fill.quantity)
    (hside : lot.quantity * fill.signed < 0) (hwithin : closesWithin lot.quantity fill) :
    ∃ next, foldFill lot fill = .ok next ∧ Reduced lot next fill := by
  have hzero : lot.quantity ≠ 0 := fun h => by simp [h] at hside
  obtain ⟨entry, hentry⟩ := wf.entry hzero
  unfold closesWithin at hwithin
  unfold foldFill
  cases hs : fill.side with
  | buy =>
    have hsigned : fill.signed = fill.quantity := by rw [LedgerFill.signed, hs]; rfl
    rw [hsigned] at hside hwithin
    have hshort := neg_of_mul_neg_left hside hpos.le
    have hleft := nonpos_of_mul_nonneg_right hwithin hshort
    obtain ⟨parts, hparts, hfold⟩ := foldBuy_books hentry hs hshort hpos
    refine ⟨_, hfold, booked_reduced hentry hzero ?_ ?_⟩
    · rw [hsigned]
      exact ⟨fun h => le_antisymm hleft h, fun h => h.ge⟩
    · have hneg : -lot.quantity ≠ 0 := neg_ne_zero.mpr hzero
      rw [coverParts, min_eq_left (by linarith), divide_of_ne hneg, divide_of_ne hpos.ne'] at hparts
      cases hparts
      rw [hsigned, LotState.share, hsigned, mul_div_cancel_right₀ _ hpos.ne', ClosingParts.mk.injEq]
      refine ⟨by ring, rfl, ?_⟩
      rw [div_neg, neg_div, mul_neg, mul_div_assoc]
  | sell =>
    have hsigned : fill.signed = -fill.quantity := by rw [LedgerFill.signed, hs]; rfl
    rw [hsigned] at hside hwithin
    have hlong := pos_of_mul_neg_left hside (neg_nonpos.mpr hpos.le)
    have hleft := nonneg_of_mul_nonneg_right hwithin hlong
    obtain ⟨parts, hparts, hfold⟩ := foldSell_books hentry hs hlong
    refine ⟨_, hfold, booked_reduced hentry hzero ?_ ?_⟩
    · rw [hsigned, ← sub_eq_add_neg]
      rw [← sub_eq_add_neg] at hleft
      exact ⟨fun h => le_antisymm h hleft, fun h => h.le⟩
    · rw [closeParts, divide_of_ne hzero] at hparts
      cases hparts
      rw [hsigned, LotState.share, hsigned, neg_neg, ClosingParts.mk.injEq]
      exact ⟨by ring, rfl, mul_div_assoc _ _ _⟩

/-- What every fill within the lot does. -/
structure Booked (lot next : LotState) (fill : LedgerFill) : Prop where
  wf : next.Wf
  quantity : next.quantity = lot.quantity + fill.signed
  cost : next.cost = lot.cost - fill.cashDelta

theorem Added.booked (h : Added lot next fill) : Booked lot next fill := by
  refine ⟨h.wf, h.quantity, ?_⟩
  unfold LotState.cost LedgerFill.cashDelta
  rw [h.basis, h.entryFees, h.realized]
  ring

theorem Reduced.booked (h : Reduced lot next fill) : Booked lot next fill := by
  refine ⟨h.wf, h.quantity, ?_⟩
  unfold LotState.cost
  rw [h.basis, h.entryFees, h.realized]
  ring

/-- One fill within the lot: quantity follows the fill, cost follows cash. -/
theorem foldFill_within (wf : lot.Wf) (hpos : 0 < fill.quantity)
    (hwithin : closesWithin lot.quantity fill) :
    ∃ next, foldFill lot fill = .ok next ∧ Booked lot next fill := by
  by_cases hside : 0 ≤ lot.quantity * fill.signed
  · obtain ⟨next, hnext, hadd⟩ := foldFill_add wf hpos hside
    exact ⟨next, hnext, hadd.booked⟩
  · obtain ⟨next, hnext, hreduce⟩ := foldFill_reduce wf hpos (not_le.mp hside) hwithin
    exact ⟨next, hnext, hreduce.booked⟩

/-! ## Folding one list of fills -/

def NeverOverCloses (quantity : Decimal) : List LedgerFill → Prop
  | [] => True
  | fill :: rest => closesWithin quantity fill ∧ NeverOverCloses (quantity + fill.signed) rest

/-- The recursion above, decided. -/
def decidableNeverOverCloses : (quantity : Decimal) → (fills : List LedgerFill) →
    Decidable (NeverOverCloses quantity fills)
  | _, [] => isTrue trivial
  | quantity, fill :: rest =>
    have := decidableNeverOverCloses (quantity + fill.signed) rest
    inferInstanceAs (Decidable (_ ∧ _))

instance (quantity : Decimal) (fills : List LedgerFill) :
    Decidable (NeverOverCloses quantity fills) := decidableNeverOverCloses quantity fills

theorem foldFillsFrom_lot (lot : LotState) (cash : Decimal) (equities : List Decimal)
    (fills : List LedgerFill) :
    (foldFillsFrom lot cash equities fills).map Prod.fst = fills.foldlM foldFill lot := by
  induction fills generalizing lot cash equities with
  | nil => rfl
  | cons fill _ ih =>
    rw [foldFillsFrom, foldlM_cons]
    cases foldFill lot fill with
    | error => rfl
    | ok next => exact ih next _ _

variable (startingCash : Decimal)

theorem foldFills_eq_ok (h : fills.foldlM foldFill LotState.empty = .ok lot) :
    ∃ equities, foldFills startingCash fills = .ok (lot, equities) := by
  have hlot := foldFillsFrom_lot .empty startingCash [startingCash] fills
  rw [h] at hlot
  unfold foldFills
  cases hf : foldFillsFrom .empty startingCash [startingCash] fills with
  | error =>
    rw [hf] at hlot
    exact absurd hlot (by simp [Except.map])
  | ok pair =>
    rw [hf] at hlot
    injection hlot with hfst
    exact ⟨pair.2, by rw [← hfst]⟩

/-- A whole fold within the lot: the final quantity is the net of the fills,
and the final cost is the cash they took. -/
theorem foldlM_within (hpos : ∀ fill ∈ fills, 0 < fill.quantity) (wf : lot.Wf)
    (hwithin : NeverOverCloses lot.quantity fills) :
    ∃ last, fills.foldlM foldFill lot = .ok last ∧ last.Wf ∧
      last.quantity = lot.quantity + (fills.map LedgerFill.signed).sum ∧
      last.cost = lot.cost - (fills.map LedgerFill.cashDelta).sum := by
  induction fills generalizing lot with
  | nil => exact ⟨lot, rfl, wf, by simp, by simp⟩
  | cons fill _ ih =>
    obtain ⟨hfill, hrest⟩ := hwithin
    obtain ⟨next, hnext, hbooked⟩ := foldFill_within wf (hpos fill mem_cons_self) hfill
    rw [← hbooked.quantity] at hrest
    obtain ⟨last, hlast, hwf, hquantity, hcost⟩ :=
      ih (fun f hf => hpos f (mem_cons_of_mem _ hf)) hbooked.wf hrest
    refine ⟨last, ?_, hwf, ?_, ?_⟩
    · rw [foldlM_cons, hnext]
      exact hlast
    · rw [hquantity, hbooked.quantity, map_cons, sum_cons]
      ring
    · rw [hcost, hbooked.cost, map_cons, sum_cons]
      ring

end Thytrader.Trading
