import Thytrader.Lib.Rounding
import Thytrader.Trading.FillFold

/-!
# The fill fold in a decimal context

`trading/ledger.py` folds fills in the interpreter's decimal context: every operation rounds its
exact result to 28 significant digits. Averages and prorated fees divide, so a fold over prices
that do not divide evenly drifts from the cash it replays, and a flat lot can report a profit that
is not what the cash gained (`thirds_drift`).

Here the fold is written over the outcome `op` of each operation. `rounded` is the context as it
runs, `exactly` the same context with its `Inexact` trap set, and `.ok` gives back the fold over
exact rationals. A fold that the trap lets through is the exact one (`foldFillsIn_returns`), so
whatever the context rounds to, it keeps the cash identity (`foldFillsIn_identity`).

Mirroring notes: the steps are those of `_fold_buy`, `_fold_sell` and `_fold_fills` in the source's
order; a unary minus is an operation, `min` and the comparisons are not. Exponent limits are left
out. The loop's cash is returned beside its equities.
-/

namespace Thytrader.Trading

open Lib List LotState

/-! ## Contexts -/

/-- A decimal context: every result is rounded. -/
def rounded (round : Decimal → Decimal) (value : Decimal) : Result Decimal := .ok (round value)

/-- The context with `Inexact` trapped: an operation that would round raises. -/
def exactly (round : Decimal → Decimal) (value : Decimal) : Result Decimal :=
  if round value = value then .ok value else .error (.valueError "Inexact")

/-- What `x` returns, `y` returns too. -/
def Returns {α : Type} (x y : Result α) : Prop := ∀ a, x = .ok a → y = .ok a

theorem Returns.refl {α : Type} (x : Result α) : Returns x x := fun _ h => h

theorem Returns.bind {α β : Type} {x y : Result α} {f g : α → Result β} (h : Returns x y)
    (hnext : ∀ a, Returns (f a) (g a)) : Returns (x >>= f) (y >>= g) := by
  intro b hb
  obtain ⟨a, ha, hfa⟩ := bind_eq_ok hb
  rw [h a ha]
  exact hnext a b hfa

variable (round : Decimal → Decimal)

theorem exactly_returns (value : Decimal) : Returns (exactly round value) (.ok value) := by
  intro a ha
  exact (of_ite_ne_else ha nofun).2

theorem exactly_returns_rounded (value : Decimal) :
    Returns (exactly round value) (rounded round value) := by
  intro a ha
  obtain ⟨hsame, hvalue⟩ := of_ite_ne_else ha nofun
  rwa [rounded, hsame]

/-! ## The fold -/

section

variable (op : Decimal → Result Decimal)

def divideIn (numerator denominator : Decimal) : Result Decimal :=
  if denominator = 0 then .error .divisionByZero else op (numerator / denominator)

/-- `((basis * held) + (price * quantity)) / combined`. -/
def averageIn (basis held : Decimal) (fill : LedgerFill) (combined : Decimal) :
    Result Decimal := do
  let carried ← op (basis * held)
  let added ← op (fill.price * fill.quantity)
  let total ← op (carried + added)
  divideIn op total combined

/-- The realized profit and the entry fees after a cover, as `_fold_buy` books it. -/
def coverIn (state : LotState) (fill : LedgerFill) (short : Decimal) :
    Result (Decimal × Decimal) :=
  let covered := min fill.quantity short
  match state.entryPrice with
  | none => .ok (state.realized, state.entryFees)
  | some entryPrice => do
    let allocated ← divideIn op (← op (state.entryFees * covered)) short
    let exitNotional ← op (fill.price * covered)
    let feeShare ← divideIn op (← op (fill.fee * covered)) fill.quantity
    let gross ← op ((← op (entryPrice * covered)) - exitNotional)
    let net ← op ((← op (gross - feeShare)) - allocated)
    return (← op (state.realized + net), ← op (state.entryFees - allocated))

/-- `_fold_buy`. -/
def foldBuyIn (state : LotState) (fill : LedgerFill) : Result LotState :=
  if state.quantity = 0 then .ok (state.opened fill fill.quantity)
  else if 0 < state.quantity then do
    let combined ← op (state.quantity + fill.quantity)
    let entryPrice ←
      averageIn op (state.entryPrice.getD fill.price) state.quantity fill combined
    let entryFees ← op (state.entryFees + fill.fee)
    return { state with quantity := combined, entryPrice := some entryPrice, entryFees }
  else do
    let (realized, entryFees) ← coverIn op state fill (← op (-state.quantity))
    let quantity ← op (state.quantity + fill.quantity)
    let updated := { state with quantity, entryFees, realized }
    return if 0 ≤ quantity then updated.flatten else updated

/-- The realized profit and the entry fees after a sale, as `_fold_sell` books it. -/
def saleIn (state : LotState) (fill : LedgerFill) (exitNotional : Decimal) :
    Result (Decimal × Decimal) :=
  match state.entryPrice with
  | none => .ok (state.realized, state.entryFees)
  | some entryPrice => do
    let allocated ← divideIn op (← op (state.entryFees * fill.quantity)) state.quantity
    let received ← op (exitNotional - fill.fee)
    let gained ← op (received - (← op (entryPrice * fill.quantity)))
    let realized ← op (state.realized + gained)
    return (← op (realized - allocated), ← op (state.entryFees - allocated))

/-- `_fold_sell`. -/
def foldSellIn (state : LotState) (fill : LedgerFill) : Result LotState := do
  let exitNotional ← op (fill.price * fill.quantity)
  if state.quantity = 0 then return state.opened fill (← op (-fill.quantity))
  else if state.quantity < 0 then
    let short ← op (-state.quantity)
    let combined ← op (short + fill.quantity)
    let entryPrice ← averageIn op (state.entryPrice.getD fill.price) short fill combined
    let quantity ← op (state.quantity - fill.quantity)
    let entryFees ← op (state.entryFees + fill.fee)
    return { state with quantity, entryPrice := some entryPrice, entryFees }
  else
    let (realized, entryFees) ← saleIn op state fill exitNotional
    let quantity ← op (state.quantity - fill.quantity)
    let updated := { state with quantity, entryFees, realized }
    return if quantity ≤ 0 then updated.flatten else updated

def foldFillIn (state : LotState) (fill : LedgerFill) : Result LotState :=
  match fill.side with
  | .buy => foldBuyIn op state fill
  | .sell => foldSellIn op state fill

/-- `cash -= price * quantity + fee`, or `cash += price * quantity - fee`. -/
def foldCashIn (cash : Decimal) (fill : LedgerFill) : Result Decimal := do
  let notional ← op (fill.price * fill.quantity)
  match fill.side with
  | .buy => op (cash - (← op (notional + fill.fee)))
  | .sell => op (cash + (← op (notional - fill.fee)))

/-- The loop of `_fold_fills`. -/
def foldFillsFromIn (state : LotState) (cash : Decimal) (equities : List Decimal) :
    List LedgerFill → Result (LotState × Decimal × List Decimal)
  | [] => .ok (state, cash, equities)
  | fill :: rest => do
    let cash ← foldCashIn op cash fill
    let next ← foldFillIn op state fill
    let equity ← op (cash + (← op (next.quantity * fill.price)))
    foldFillsFromIn next cash (equities ++ [equity]) rest

def foldFillsIn (startingCash : Decimal) (fills : List LedgerFill) :
    Result (LotState × Decimal × List Decimal) :=
  foldFillsFromIn op .empty startingCash [startingCash] fills

end

/-! ## Contexts that agree -/

section

variable {op other : Decimal → Result Decimal} (h : ∀ value, Returns (op value) (other value))
include h

theorem divideIn_returns (numerator denominator : Decimal) :
    Returns (divideIn op numerator denominator) (divideIn other numerator denominator) := by
  unfold divideIn
  split
  · exact .refl _
  · exact h _

theorem averageIn_returns (basis held : Decimal) (fill : LedgerFill) (combined : Decimal) :
    Returns (averageIn op basis held fill combined) (averageIn other basis held fill combined) :=
  .bind (h _) fun _ => .bind (h _) fun _ => .bind (h _) fun _ => divideIn_returns h _ _

theorem coverIn_returns (state : LotState) (fill : LedgerFill) (short : Decimal) :
    Returns (coverIn op state fill short) (coverIn other state fill short) := by
  unfold coverIn
  cases state.entryPrice with
  | none => exact .refl _
  | some entryPrice =>
    exact .bind (h _) fun _ => .bind (divideIn_returns h _ _) fun _ => .bind (h _) fun _ =>
      .bind (h _) fun _ => .bind (divideIn_returns h _ _) fun _ => .bind (h _) fun _ =>
      .bind (h _) fun _ => .bind (h _) fun _ => .bind (h _) fun _ => .bind (h _) fun _ =>
      .bind (h _) fun _ => .refl _

theorem foldBuyIn_returns (state : LotState) (fill : LedgerFill) :
    Returns (foldBuyIn op state fill) (foldBuyIn other state fill) := by
  unfold foldBuyIn
  split
  · exact .refl _
  split
  · exact .bind (h _) fun _ => .bind (averageIn_returns h _ _ _ _) fun _ =>
      .bind (h _) fun _ => .refl _
  · exact .bind (h _) fun short => .bind (coverIn_returns h _ _ short) fun _ =>
      .bind (h _) fun _ => .refl _

theorem saleIn_returns (state : LotState) (fill : LedgerFill) (exitNotional : Decimal) :
    Returns (saleIn op state fill exitNotional) (saleIn other state fill exitNotional) := by
  unfold saleIn
  cases state.entryPrice with
  | none => exact .refl _
  | some entryPrice =>
    exact .bind (h _) fun _ => .bind (divideIn_returns h _ _) fun _ => .bind (h _) fun _ =>
      .bind (h _) fun _ => .bind (h _) fun _ => .bind (h _) fun _ => .bind (h _) fun _ =>
      .bind (h _) fun _ => .refl _

theorem foldSellIn_returns (state : LotState) (fill : LedgerFill) :
    Returns (foldSellIn op state fill) (foldSellIn other state fill) := by
  refine .bind (h _) fun exitNotional => ?_
  split
  · exact .bind (h _) fun _ => .refl _
  split
  · exact .bind (h _) fun _ => .bind (h _) fun _ => .bind (averageIn_returns h _ _ _ _) fun _ =>
      .bind (h _) fun _ => .bind (h _) fun _ => .refl _
  · exact .bind (saleIn_returns h _ _ exitNotional) fun _ => .bind (h _) fun _ => .refl _

theorem foldFillIn_returns (state : LotState) (fill : LedgerFill) :
    Returns (foldFillIn op state fill) (foldFillIn other state fill) := by
  unfold foldFillIn
  cases fill.side with
  | buy => exact foldBuyIn_returns h state fill
  | sell => exact foldSellIn_returns h state fill

theorem foldCashIn_returns (cash : Decimal) (fill : LedgerFill) :
    Returns (foldCashIn op cash fill) (foldCashIn other cash fill) := by
  refine .bind (h _) fun notional => ?_
  cases fill.side with
  | buy => exact .bind (h _) fun _ => h _
  | sell => exact .bind (h _) fun _ => h _

theorem foldFillsFromIn_returns (state : LotState) (cash : Decimal) (equities : List Decimal)
    (fills : List LedgerFill) :
    Returns (foldFillsFromIn op state cash equities fills)
      (foldFillsFromIn other state cash equities fills) := by
  induction fills generalizing state cash equities with
  | nil => exact .refl _
  | cons fill rest ih =>
    exact .bind (foldCashIn_returns h cash fill) fun _ =>
      .bind (foldFillIn_returns h state fill) fun next =>
        .bind (h _) fun _ => .bind (h _) fun _ => ih next _ _

end

/-! ## The exact fold -/

theorem foldFillIn_ok (state : LotState) (fill : LedgerFill) :
    foldFillIn .ok state fill = foldFill state fill := by
  unfold foldFillIn foldFill
  cases fill.side with
  | buy =>
    unfold foldBuyIn foldBuy coverIn
    cases state.entryPrice with
    | none => rfl
    | some =>
      simp only [bind_assoc, pure_bind]
      rfl
  | sell =>
    unfold foldSellIn foldSell saleIn
    cases state.entryPrice with
    | none => rfl
    | some =>
      simp only [bind_assoc, pure_bind]
      rfl

theorem foldCashIn_ok (cash : Decimal) (fill : LedgerFill) :
    foldCashIn .ok cash fill = .ok (foldCash cash fill) := by
  unfold foldCashIn foldCash
  cases fill.side with
  | buy => rfl
  | sell => rfl

theorem foldFillsFromIn_ok (state : LotState) (cash : Decimal) (equities : List Decimal)
    (fills : List LedgerFill) :
    foldFillsFromIn .ok state cash equities fills =
      (foldFillsFrom state cash equities fills).map
        (fun last => (last.1, replayedCash cash fills, last.2)) := by
  induction fills generalizing state cash equities with
  | nil => rfl
  | cons fill rest ih =>
    rw [foldFillsFrom_cons, foldFillsFromIn, foldCashIn_ok]
    change (foldFillIn .ok state fill >>= fun next => foldFillsFromIn .ok next _ _ rest) = _
    rw [foldFillIn_ok]
    cases foldFill state fill with
    | error => rfl
    | ok next => exact ih next _ _

/-! ## The identity -/

/-- While nothing is rounded, the fold as the code runs it keeps the cash identity. -/
theorem foldFillsIn_identity (startingCash : Decimal) {fills : List LedgerFill}
    (hpos : ∀ fill ∈ fills, 0 < fill.quantity) (hwithin : NeverOverCloses 0 fills)
    (hexact : (foldFillsIn (exactly round) startingCash fills).isOk) :
    ∃ lot cash equities,
      foldFillsIn (rounded round) startingCash fills = .ok (lot, cash, equities) ∧
      (∀ fill ∈ fills.getLast?, equities.getLast? = some (cash + lot.quantity * fill.price)) ∧
      cash + lot.quantity * lot.entryPrice.getD 0 =
        startingCash + lot.realized - lot.entryFees ∧
      (lot.quantity ≠ 0 → lot.entryPrice.isSome) ∧
      lot.quantity = (fills.map LedgerFill.signed).sum ∧
      (lot.quantity = 0 → lot.entryFees = 0 ∧ lot.realized = cash - startingCash) := by
  obtain ⟨last, hlast⟩ : ∃ last, foldFillsIn (exactly round) startingCash fills = .ok last := by
    cases hrun : foldFillsIn (exactly round) startingCash fills with
    | error => simp [hrun, Except.isOk, Except.toBool] at hexact
    | ok last => exact ⟨last, rfl⟩
  have hrounded := foldFillsFromIn_returns (exactly_returns_rounded round) _ _ _ _ last hlast
  have hrational := foldFillsFromIn_returns (exactly_returns round) _ _ _ _ last hlast
  obtain ⟨lot, equities, hfold, hidentity⟩ := foldFills_identity startingCash hpos hwithin
  unfold foldFills at hfold
  rw [foldFillsFromIn_ok, hfold] at hrational
  cases hrational
  exact ⟨lot, _, equities, hrounded, hidentity⟩

/-- A scaled-in long sold off in two parts, then a short opened from flat and covered in part. -/
def roundTrip : List LedgerFill :=
  [⟨.buy, 10, 2, 1, 0⟩, ⟨.buy, 13, 2, 1, 1⟩, ⟨.sell, 12, 1, 1, 2⟩, ⟨.sell, 14, 3, 1, 3⟩,
    ⟨.sell, 15, 2, 1, 4⟩, ⟨.buy, 14, 1, 1, 5⟩]

theorem foldFillsIn_identity_roundTrip :
    ∃ lot cash equities,
      foldFillsIn (rounded (roundTo 10 28)) 100 roundTrip = .ok (lot, cash, equities) ∧
      cash + lot.quantity * lot.entryPrice.getD 0 = 100 + lot.realized - lot.entryFees := by
  obtain ⟨lot, cash, equities, hfold, -, hidentity, -⟩ :=
    @foldFillsIn_identity (roundTo 10 28) 100 roundTrip (by decide +kernel)
      (by decide +kernel) (by decide +kernel)
  exact ⟨lot, cash, equities, hfold, hidentity⟩

/-- Three units bought at an average of 100.66…, sold at 102. -/
def thirds : List LedgerFill :=
  [⟨.buy, 100, 1, 1 / 10, 0⟩, ⟨.buy, 101, 2, 2 / 10, 1⟩, ⟨.sell, 102, 3, 3 / 10, 2⟩]

/-- The lot is flat, the cash gained 3.4, and the profit booked is a little less. -/
theorem thirds_drift :
    (∀ fill ∈ thirds, 0 < fill.quantity) ∧ NeverOverCloses 0 thirds ∧
      ∃ lot cash equities,
        foldFillsIn (rounded (roundTo 10 28)) 1000 thirds = .ok (lot, cash, equities) ∧
        lot.quantity = 0 ∧ cash - 1000 = 34 / 10 ∧ lot.realized < 34 / 10 := by
  refine ⟨by decide +kernel, by decide +kernel, ?_⟩
  have hfold : (foldFillsIn (rounded (roundTo 10 28)) 1000 thirds).toOption.any (fun last =>
      last.1.quantity = 0 ∧ last.2.1 - 1000 = 34 / 10 ∧ last.1.realized < 34 / 10) := by
    decide +kernel
  cases hrun : foldFillsIn (rounded (roundTo 10 28)) 1000 thirds with
  | error => simp [hrun, Except.toOption] at hfold
  | ok last => exact ⟨last.1, last.2.1, last.2.2, rfl, by simpa [hrun, Except.toOption] using hfold⟩

end Thytrader.Trading
