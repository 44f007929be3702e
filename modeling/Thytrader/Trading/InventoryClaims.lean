import Thytrader.Trading.Protection
import Thytrader.Trading.Sizing
import Mathlib.Algebra.Order.BigOperators.Group.List

/-!
# Managed claims on a base currency

`trading/inventory_claims.py`: what the live books own or will own of one venue base currency, and
what is left of the balance for a book to adopt. Unknown is a reason without a quantity, never a
zero (`adoptable_attributed`).

Mirroring notes: a set of products is the duplicate-free list of its elements, and
`dict.fromkeys` keeps the first of equal reasons. The two running sums of `_working_claims` are one
sum per order side.
-/

namespace Thytrader.Trading

open Lib List
open MarketData (isSpotProductId baseCurrency)

/-- `_WORKING`: the statuses of `_ACTIVE_STATUSES`. -/
def OrderStatus.working (status : OrderStatus) : Bool := status.active

inductive BaseUnresolvedReason where
  | unknownOrder
  | fillEconomicsUnsettled
  | accountingUnresolved
  | balanceMissing
  | duplicateBalanceRows
  deriving DecidableEq, Repr

structure ExchangeBalance where
  currency : String
  available : Decimal
  hold : Decimal

def ExchangeBalance.total (balance : ExchangeBalance) : Decimal := balance.available + balance.hold

structure ManagedBaseClaims where
  base : String
  managedLong : Decimal
  workingBuys : Decimal
  workingShortEntrySells : Decimal
  unresolved : List BaseUnresolvedReason := []

/-- Every quantity subtracted from the venue total. -/
def ManagedBaseClaims.claimed (claims : ManagedBaseClaims) : Decimal :=
  claims.managedLong + claims.workingBuys + claims.workingShortEntrySells

structure BaseAvailability where
  base : String
  claims : ManagedBaseClaims
  total : Option Decimal
  available : Option Decimal
  unmanaged : Option Decimal
  adoptable : Option Decimal
  reasons : List BaseUnresolvedReason

/-! ## The claims of one book -/

/-- The test of `_base_products`. -/
def onBase (base productId : String) : Bool :=
  isSpotProductId productId && decide ((baseCurrency productId).toOption = some base)

/-- The products a book's rows name. -/
def namedProducts (snapshot : DeploymentSnapshot) : List String :=
  let resolved := fun productId => resolvedProductId productId snapshot.deployment
  snapshot.deployment.productId :: (snapshot.orders.map (fun row => resolved row.productId) ++
    snapshot.intents.map (fun row => resolved row.productId) ++
    (snapshotPositions snapshot).map (fun row => resolved row.productId) ++
    snapshot.instrumentRuntimes.map (·.productId))

def baseProducts (snapshot : DeploymentSnapshot) (base : String) : List String :=
  ((namedProducts snapshot).filter (onBase base)).dedup

/-- `_book_reasons`: unknown evidence on the base in one book. -/
def bookReasons (snapshot : DeploymentSnapshot) (products : List String) :
    List BaseUnresolvedReason :=
  (if snapshot.accountingComplete then [] else [.accountingUnresolved]) ++
  (products.insertionSort (· ≤ ·)).flatMap (fun product =>
    let found := bookInventoryReasons snapshot product
    (if .fillEconomicsUnsettled ∈ found then [.fillEconomicsUnsettled] else []) ++
    (if found.any (· ≠ .fillEconomicsUnsettled) then [.accountingUnresolved] else [])) ++
  (if snapshot.orders.any (fun order => order.status = .unknown ∧
      resolvedProductId order.productId snapshot.deployment ∈ products) then [.unknownOrder]
    else [])

/-- What a working order may still add to the claims of its side. -/
def orderClaim (snapshot : DeploymentSnapshot) (products : List String) (order : Order) : Decimal :=
  let remaining := order.quantity - order.filledQuantity
  -- Missing intent evidence is conservatively an opening order.
  let purpose := ((intentPurposes snapshot).get? order.intentId).getD .entry
  if order.status.working ∧ resolvedProductId order.productId snapshot.deployment ∈ products ∧
      0 < remaining ∧ purpose.opensInventory then remaining
  else 0

/-- `_unordered_openings`: entry intents whose order row is not written yet. -/
def unorderedOpenings (intents : List OrderIntent) (ordered : List Uuid) : List OrderIntent :=
  intents.filter (fun intent =>
    intent.purpose = .entry ∧ intent.id ∉ ordered ∧ intent.status.working)

/-- `_working_claims`: unfilled opening orders of one side, and intents with no order yet. -/
def workingClaims (snapshot : DeploymentSnapshot) (products : List String) (side : OrderSide) :
    Decimal :=
  ((snapshot.orders.filter (·.side = side)).map (orderClaim snapshot products)).sum +
  (((unorderedOpenings snapshot.intents (snapshot.orders.map (·.intentId))).filter
    (fun intent => intent.side = side ∧
      resolvedProductId intent.productId snapshot.deployment ∈ products)).map (·.quantity)).sum

/-- One turn of the loop of `managed_base_claims`; paper books own no venue inventory. -/
def bookClaims (base : String) (snapshot : DeploymentSnapshot) : ManagedBaseClaims :=
  let products := baseProducts snapshot base
  if snapshot.deployment.mode ≠ .live ∨ products = [] then ⟨base, 0, 0, 0, []⟩
  else
    { base
      managedLong := (((snapshotPositions snapshot).filter (fun position => position.side = .long ∧
        resolvedProductId position.productId snapshot.deployment ∈ products)).map (·.quantity)).sum
      workingBuys := workingClaims snapshot products .buy
      workingShortEntrySells := workingClaims snapshot products .sell
      unresolved := bookReasons snapshot products }

/-- `managed_base_claims`: the claims of every live book. -/
def managedBaseClaims (snapshots : List DeploymentSnapshot) (base : String) : ManagedBaseClaims :=
  let books := snapshots.map (bookClaims base)
  { base
    managedLong := (books.map (·.managedLong)).sum
    workingBuys := (books.map (·.workingBuys)).sum
    workingShortEntrySells := (books.map (·.workingShortEntrySells)).sum
    unresolved := (books.flatMap (·.unresolved)).eraseDups }

/-! ## The balance against the claims -/

/-- The quantity rounded down to a positive base increment. -/
def roundedToBase (quantity : Decimal) (baseIncrement : Option Decimal) : Decimal :=
  match baseIncrement with
  | none => quantity
  | some increment =>
    if 0 < increment then roundInteger .down (quantity / increment) * increment else quantity

/-- `base_availability`: exactly one balance row must name the base. -/
def baseAvailability (balances : List ExchangeBalance) (claims : ManagedBaseClaims)
    (baseIncrement : Option Decimal := none) : BaseAvailability :=
  let unknown (row : Option ExchangeBalance) (reasons : List BaseUnresolvedReason) :=
    { base := claims.base, claims, total := row.map (·.total), available := row.map (·.available)
      unmanaged := none, adoptable := none, reasons := reasons.eraseDups : BaseAvailability }
  match balances.filter (fun balance => balance.currency = claims.base) with
  | [] => unknown none (claims.unresolved ++ [.balanceMissing])
  | [row] =>
    if claims.unresolved ≠ [] then unknown row claims.unresolved
    else
      let unmanaged := row.total - claims.claimed
      { base := claims.base, claims, total := some row.total, available := some row.available
        unmanaged := some unmanaged
        adoptable := some (roundedToBase (max 0 (min row.available unmanaged)) baseIncrement)
        reasons := [] }
  | _ => unknown none (claims.unresolved ++ [.duplicateBalanceRows])

section

variable {quantity adoptable : Decimal} {baseIncrement : Option Decimal}

theorem roundedToBase_steps {increment : Decimal} (hquantity : 0 ≤ quantity)
    (hpositive : 0 < increment) : ∃ steps : Nat,
    roundedToBase quantity (some increment) = steps * increment ∧
      ∀ count : Nat, count * increment ≤ quantity ↔ count ≤ steps := by
  have hrounded : quantizeToIncrement quantity increment =
      .ok (roundedToBase quantity (some increment)) := by
    simp only [quantizeToIncrement, roundedToBase, hpositive, not_le.mpr hpositive, if_true, if_false]
  exact (quantizeToIncrement_down hquantity hrounded).2

theorem roundedToBase_bounds (hquantity : 0 ≤ quantity) :
    0 ≤ roundedToBase quantity baseIncrement ∧ roundedToBase quantity baseIncrement ≤ quantity := by
  cases baseIncrement with
  | none => exact ⟨hquantity, le_rfl⟩
  | some increment =>
    by_cases hpositive : 0 < increment
    · obtain ⟨steps, hsteps, hlargest⟩ := roundedToBase_steps hquantity hpositive
      rw [hsteps]
      exact ⟨by positivity, (hlargest steps).mpr le_rfl⟩
    · simp only [roundedToBase, if_neg hpositive]
      exact ⟨hquantity, le_rfl⟩

theorem adoptable_iff {balances : List ExchangeBalance} {claims : ManagedBaseClaims} :
    (baseAvailability balances claims baseIncrement).adoptable = some adoptable ↔
      claims.unresolved = [] ∧ ∃ row,
        balances.filter (fun balance => balance.currency = claims.base) = [row] ∧
        adoptable = roundedToBase (max 0 (min row.available (row.total - claims.claimed)))
          baseIncrement := by
  unfold baseAvailability
  split
  next hrow => simp [hrow]
  next row hrow =>
    by_cases hreasons : claims.unresolved = []
    · simp [hrow, hreasons, eq_comm (a := adoptable)]
    · simp [hreasons]
  next rows hnone hone =>
    refine iff_of_false nofun ?_
    intro h
    obtain ⟨-, row, hrow, -⟩ := h
    exact hone row hrow

end

/-! ## Fail closed -/

section

variable {snapshots : List DeploymentSnapshot} {base : String}

/-- What a live book has shown of its products of the base. -/
structure Attributed (book : DeploymentSnapshot) (base : String) : Prop where
  complete : book.accountingComplete = true
  settled : ∀ productId ∈ baseProducts book base, bookInventoryReasons book productId = []
  known : ∀ order ∈ book.orders, resolvedProductId order.productId book.deployment ∈
    baseProducts book base → order.status ≠ .unknown

theorem bookReasons_eq_nil_iff {book : DeploymentSnapshot} :
    bookReasons book (baseProducts book base) = [] ↔ Attributed book base := by
  simp only [bookReasons, append_eq_nil_iff, flatMap_eq_nil_iff, mem_insertionSort,
    ite_eq_right_iff, ite_eq_left_iff, cons_ne_nil, imp_false, not_not, any_eq_true,
    decide_eq_true_eq]
  constructor
  · intro h
    obtain ⟨⟨hcomplete, hfound⟩, hknown⟩ := h
    refine ⟨hcomplete, ?_, by grind⟩
    intro productId hproduct
    have hnone := hfound productId hproduct
    rw [eq_nil_iff_forall_not_mem]
    grind
  · intro h
    have hknown := h.known
    exact ⟨⟨h.complete, fun productId hproduct => by simp [h.settled productId hproduct]⟩, by grind⟩

theorem unresolved_eq_nil_iff : (managedBaseClaims snapshots base).unresolved = [] ↔
    ∀ book ∈ snapshots, book.deployment.mode = .live → baseProducts book base ≠ [] →
      Attributed book base := by
  have hbook (book : DeploymentSnapshot) : (bookClaims base book).unresolved = [] ↔
      (book.deployment.mode = .live → baseProducts book base ≠ [] → Attributed book base) := by
    rw [← bookReasons_eq_nil_iff, bookClaims]
    grind
  simp only [← hbook, eq_nil_iff_forall_not_mem, managedBaseClaims, mem_eraseDups, mem_flatMap,
    mem_map]
  grind

/-- A base quantity is adoptable exactly when one balance row names the base and every live book has
attributed its products of it. What is adopted is a number of increments within the available
balance, and leaves every claim covered by the venue total. -/
theorem adoptable_attributed (balances : List ExchangeBalance) (baseIncrement : Option Decimal) :
    ((baseAvailability balances (managedBaseClaims snapshots base) baseIncrement).adoptable.isSome ↔
      (∃ row, balances.filter (fun balance => balance.currency = base) = [row]) ∧
      ∀ book ∈ snapshots, book.deployment.mode = .live → baseProducts book base ≠ [] →
        Attributed book base) ∧
    ∀ adoptable row,
      (baseAvailability balances (managedBaseClaims snapshots base) baseIncrement).adoptable =
        some adoptable →
      balances.filter (fun balance => balance.currency = base) = [row] →
      0 ≤ adoptable ∧ adoptable ≤ max 0 row.available ∧
      (0 < adoptable → (managedBaseClaims snapshots base).claimed + adoptable ≤ row.total) ∧
      ∀ increment, baseIncrement = some increment → 0 < increment →
        ∃ steps : Nat, adoptable = steps * increment := by
  rw [← unresolved_eq_nil_iff, Option.isSome_iff_exists]
  refine ⟨?_, ?_⟩
  · constructor
    · intro h
      obtain ⟨adoptable, h⟩ := h
      obtain ⟨hreasons, row, hrow, -⟩ := adoptable_iff.mp h
      exact ⟨⟨row, hrow⟩, hreasons⟩
    · intro h
      obtain ⟨⟨row, hrow⟩, hreasons⟩ := h
      exact ⟨_, adoptable_iff.mpr ⟨hreasons, row, hrow, rfl⟩⟩
  · intro adoptable row h hrow
    obtain ⟨-, row', hrow', rfl⟩ := adoptable_iff.mp h
    cases hrow.symm.trans hrow'
    generalize (managedBaseClaims snapshots base).claimed = claimed
    have hfree := le_max_left 0 (min row.available (row.total - claimed))
    obtain ⟨hnonneg, hle⟩ := @roundedToBase_bounds _ baseIncrement hfree
    refine ⟨hnonneg, hle.trans (max_le_max le_rfl (min_le_left _ _)), ?_, ?_⟩
    · intro hpositive
      have hroom := (lt_max_iff.mp (hpositive.trans_le hle)).resolve_left (lt_irrefl 0)
      rw [max_eq_right hroom.le] at hle ⊢
      linarith [hle.trans (min_le_right _ _)]
    · intro increment hincrement hpositive
      rw [hincrement]
      obtain ⟨steps, hsteps, -⟩ := roundedToBase_steps hfree hpositive
      exact ⟨steps, hsteps⟩

end

end Thytrader.Trading
