import Thytrader.Evaluation.Specification
import Thytrader.Trading.FuturesRepair
import Mathlib.Data.List.TakeWhile

/-!
# The funding hours of a futures book

`trading/futures_book.py`: the signed quantity held before an instant, the uncharged hours at
which a book held a position, and one hour's cash flow.

Mirroring notes: the `while hour <= through` loop of `funding_hours_held` is a recursion on the
number of hours left; its inner loop, which advances the fill index, takes the fills before the
hour from the front of what is left. `FundingSweep` is the same loop turn by turn, with no bound
on its turns: `fundingSweep_iff` shows that the bound never cuts it short.
`funding_hours_swept` says what the loop returns.
-/

namespace Thytrader.Trading

open List List.Pairwise Int
open MarketData (minuteLength)

/-- `_HOUR`. -/
def hourLength : Duration := 60 * minuteLength

def fundingSettleGrace : Duration := 15 * minuteLength

/-- The loop body of `_signed_fills`: an applied fill of the product, signed by its order. -/
def signedFill (snapshot : DeploymentSnapshot) (productId : String) (fill : Fill) :
    Option (Time × Decimal) :=
  match lastOrder? snapshot.orders fill.orderId with
  | none => none
  | some order =>
    if fill.economicsAppliedAt = none then none
    else if resolvedProductId order.productId snapshot.deployment ≠ productId then none
    else some (fill.filledAt, if order.side = .buy then fill.quantity else -fill.quantity)

/-- `_signed_fills`: oldest first, equal times in recorded order. -/
def signedFills (snapshot : DeploymentSnapshot) (productId : String) : List (Time × Decimal) :=
  (snapshot.fills.filterMap (signedFill snapshot productId)).insertionSort
    (fun first second => first.1 ≤ second.1)

def quantityBefore (events : List (Time × Decimal)) (instant : Time) : Decimal :=
  ((events.filter (fun event => event.1 < instant)).map Prod.snd).sum

def heldQuantityBefore (snapshot : DeploymentSnapshot) (productId : String) (instant : Time) :
    Decimal :=
  quantityBefore (signedFills snapshot productId) instant

/-- The loop of `funding_hours_held`, with the hours left to look at. -/
def fundingHoursLoop (charged : List Time) (through : Time) :
    Nat → Time → Decimal → List (Time × Decimal) → List Time
  | 0, _, _, _ => []
  | hours + 1, hour, held, events =>
    if through < hour then []
    else
      let passed := events.takeWhile (fun event => event.1 < hour)
      let rest := events.dropWhile (fun event => event.1 < hour)
      let held := held + (passed.map Prod.snd).sum
      if held = 0 ∧ rest = [] then []
      else if held ≠ 0 ∧ hour ∉ charged then
        hour :: fundingHoursLoop charged through hours (hour + hourLength) held rest
      else fundingHoursLoop charged through hours (hour + hourLength) held rest

def chargedHours (snapshot : DeploymentSnapshot) (productId : String) : List Time :=
  (snapshot.funding.filter (fun flow => flow.productId = productId)).map (·.fundingTime)

def fundingHoursHeld (snapshot : DeploymentSnapshot) (productId : String) (through : Time) :
    List Time :=
  match signedFills snapshot productId with
  | [] => []
  | first :: rest =>
    let hour := (first.1 / hourLength + 1) * hourLength
    fundingHoursLoop (chargedHours snapshot productId) through
      ((through - hour) / hourLength + 1).toNat hour 0 (first :: rest)

/-- The `while` loop of `funding_hours_held`: the sweep from an hour, with the quantity held so far
and the fills not yet passed, ends and returns the list. -/
inductive FundingSweep (charged : List Time) (through : Time) :
    Time → Decimal → List (Time × Decimal) → List Time → Prop
  | past {hour : Time} {held : Decimal} {events : List (Time × Decimal)} :
      through < hour → FundingSweep charged through hour held events []
  | pass {hour : Time} {held : Decimal} {event : Time × Decimal}
      {rest : List (Time × Decimal)} {due : List Time} :
      hour ≤ through → event.1 < hour →
      FundingSweep charged through hour (held + event.2) rest due →
      FundingSweep charged through hour held (event :: rest) due
  | flat {hour : Time} :
      hour ≤ through → FundingSweep charged through hour 0 [] []
  | charge {hour : Time} {held : Decimal} {events : List (Time × Decimal)} {due : List Time} :
      hour ≤ through → (∀ event ∈ events.head?, hour ≤ event.1) →
      held ≠ 0 ∧ hour ∉ charged →
      FundingSweep charged through (hour + hourLength) held events due →
      FundingSweep charged through hour held events (hour :: due)
  | skip {hour : Time} {held : Decimal} {events : List (Time × Decimal)} {due : List Time} :
      hour ≤ through → (∀ event ∈ events.head?, hour ≤ event.1) →
      ¬(held = 0 ∧ events = []) → ¬(held ≠ 0 ∧ hour ∉ charged) →
      FundingSweep charged through (hour + hourLength) held events due →
      FundingSweep charged through hour held events due

/-- A call of `funding_hours_held` ends and returns the list. -/
def FundingHoursReturn (snapshot : DeploymentSnapshot) (productId : String) (through : Time)
    (due : List Time) : Prop :=
  match signedFills snapshot productId with
  | [] => due = []
  | first :: rest =>
    FundingSweep (chargedHours snapshot productId) through
      ((first.1 / hourLength + 1) * hourLength) 0 (first :: rest) due

def fundingOverdue (hour now : Time) : Bool := hour + hourLength + fundingSettleGrace ≤ now

def fundingFlow (snapshot : DeploymentSnapshot) (productId : String) (hour : Time)
    (markPrice rate : Decimal) (appliedAt : Time) : FundingCashFlow :=
  let signed := heldQuantityBefore snapshot productId hour
  { deploymentId := snapshot.deployment.id
    productId
    fundingTime := hour
    signedQuantity := signed
    markPrice
    rate
    amount := -signed * markPrice * rate
    appliedAt }

/-! ## What the loop returns -/

theorem hourLength_pos : 0 < hourLength := by decide

variable {due : List Time}

section

variable {events : List (Time × Decimal)} {instant hour : Time}

/-- Splitting off the events before an earlier instant. -/
theorem quantityBefore_split (events : List (Time × Decimal)) (hle : hour ≤ instant) :
    ((events.takeWhile (fun event => event.1 < hour)).map Prod.snd).sum +
      quantityBefore (events.dropWhile (fun event => event.1 < hour)) instant =
    quantityBefore events instant := by
  have hpassed : (events.takeWhile (fun event => event.1 < hour)).filter
      (fun event => event.1 < instant) = events.takeWhile (fun event => event.1 < hour) := by
    rw [filter_eq_self]
    intro event hevent
    have hearly := mem_takeWhile_imp hevent
    exact decide_eq_true ((of_decide_eq_true hearly).trans_le hle)
  have hsplit : quantityBefore events instant = quantityBefore
      (events.takeWhile (fun event => event.1 < hour) ++
        events.dropWhile (fun event => event.1 < hour)) instant := by
    rw [takeWhile_append_dropWhile]
  rw [hsplit]
  unfold quantityBefore
  rw [filter_append, map_append, sum_append, hpassed]

/-- Sorted events that begin at or after an instant hold nothing before it. -/
theorem quantityBefore_eq_zero (h : ∀ event ∈ events, instant ≤ event.1) :
    quantityBefore events instant = 0 := by
  unfold quantityBefore
  rw [filter_eq_nil_iff.mpr]
  · rfl
  · intro event hevent
    simpa using h event hevent

theorem dropWhile_late (hsorted : events.Pairwise (fun first second => first.1 ≤ second.1)) :
    ∀ event ∈ events.dropWhile (fun event => event.1 < hour), hour ≤ event.1 := by
  induction events with
  | nil => simp
  | cons _ _ ih =>
    obtain ⟨hfirst, hrest⟩ := pairwise_cons.mp hsorted
    rw [dropWhile_cons]
    split
    · exact ih hrest
    next hlate =>
      simp only [decide_eq_true_eq, not_lt] at hlate
      intro event hevent
      obtain rfl | hevent := mem_cons.mp hevent
      · exact hlate
      · exact hlate.trans (hfirst event hevent)

theorem dropWhile_sorted (hour : Time)
    (hsorted : events.Pairwise (fun first second => first.1 ≤ second.1)) :
    (events.dropWhile (fun event => event.1 < hour)).Pairwise
      (fun first second => first.1 ≤ second.1) :=
  hsorted.sublist (dropWhile_sublist _)

section

variable (charged : List Time) (through : Time) (hours : Nat) (hour : Time) (held : Decimal)
  (hsorted : events.Pairwise (fun first second => first.1 ≤ second.1))
include hsorted

/-- The loop returns the uncharged hours from `hour` on at which something is held. -/
theorem mem_fundingHoursLoop_iff
    {due : Time} : due ∈ fundingHoursLoop charged through hours hour held events ↔
      (∃ index : Nat, index < hours ∧ due = hour + index * hourLength) ∧ due ≤ through ∧
        held + quantityBefore events due ≠ 0 ∧ due ∉ charged := by
  induction hours generalizing hour held events with
  | zero => simp [fundingHoursLoop]
  | succ hours ih =>
    have hpos := hourLength_pos
    unfold fundingHoursLoop
    split
    next hpast =>
      constructor
      · intro h
        cases h
      · intro h
        obtain ⟨⟨index, -, rfl⟩, hdue, -⟩ := h
        have hsteps := mul_nonneg (natCast_nonneg index) hpos.le
        linarith
    next hreached =>
      dsimp only
      have hnow : quantityBefore (events.dropWhile (fun event => event.1 < hour)) hour = 0 :=
        quantityBefore_eq_zero (dropWhile_late hsorted)
      have hheld : ∀ instant, hour ≤ instant →
          held + ((events.takeWhile (fun event => event.1 < hour)).map Prod.snd).sum +
            quantityBefore (events.dropWhile (fun event => event.1 < hour)) instant =
          held + quantityBefore events instant := by
        intro instant hle
        rw [add_assoc, quantityBefore_split events hle]
      have hself := hheld hour le_rfl
      rw [hnow, add_zero] at hself
      have hlater : ∀ index : Nat, hour ≤ hour + index * hourLength := by
        intro index
        have hsteps := mul_nonneg (natCast_nonneg index) hpos.le
        linarith
      -- an hour of the loop is this one or one of the next
      have hindex : (∃ index : Nat, index < hours + 1 ∧ due = hour + index * hourLength) ↔
          due = hour ∨ ∃ index : Nat, index < hours ∧ due = hour + hourLength + index * hourLength := by
        constructor
        · intro h
          obtain ⟨index, hlt, rfl⟩ := h
          cases index with
          | zero => exact .inl (by simp)
          | succ index =>
            refine .inr ⟨index, by omega, ?_⟩
            push_cast
            ring
        · intro h
          obtain rfl | ⟨index, hlt, rfl⟩ := h
          · exact ⟨0, by omega, by simp⟩
          · refine ⟨index + 1, by omega, ?_⟩
            push_cast
            ring
      have hrest := ih (hour + hourLength)
        (held + ((events.takeWhile (fun event => event.1 < hour)).map Prod.snd).sum)
        (dropWhile_sorted hour hsorted)
      split
      next hflat =>
        constructor
        · intro h
          cases h
        · intro h
          obtain ⟨⟨index, -, rfl⟩, -, hne, -⟩ := h
          have hzero := hheld _ (hlater index)
          rw [hflat.1, hflat.2] at hzero
          exact absurd hzero.symm (by simpa [quantityBefore] using hne)
      · have hstep : due ∈ fundingHoursLoop charged through hours (hour + hourLength)
            (held + ((events.takeWhile (fun event => event.1 < hour)).map Prod.snd).sum)
            (events.dropWhile (fun event => event.1 < hour)) ↔
            (∃ index : Nat, index < hours ∧ due = hour + hourLength + index * hourLength) ∧
              due ≤ through ∧ held + quantityBefore events due ≠ 0 ∧ due ∉ charged := by
          rw [hrest]
          refine and_congr_right (fun h => ?_)
          obtain ⟨index, -, rfl⟩ := h
          rw [hheld]
          have hnext := hlater (index + 1)
          push_cast at hnext
          linarith
        split
        next hdue =>
          rw [mem_cons, hstep, hindex, or_and_right]
          refine or_congr_left ?_
          constructor
          · intro h
            subst h
            exact ⟨rfl, not_lt.mp hreached, by rw [← hself]; exact hdue.1, hdue.2⟩
          · exact fun h => h.1
        next hskip =>
          rw [hstep, hindex, or_and_right]
          constructor
          · exact .inr
          · intro h
            obtain ⟨rfl, -, hne, hfresh⟩ | h := h
            · exact absurd ⟨by rw [hself]; exact hne, hfresh⟩ hskip
            · exact h

theorem fundingHoursLoop_increasing :
    (fundingHoursLoop charged through hours hour held events).Pairwise (· < ·) := by
  induction hours generalizing hour held events with
  | zero => exact nil
  | succ hours ih =>
    unfold fundingHoursLoop
    dsimp only
    split
    · exact nil
    · split
      · exact nil
      · have hrest := dropWhile_sorted hour hsorted
        split
        · refine pairwise_cons.mpr ⟨?_, ih _ _ hrest⟩
          intro later hlater
          obtain ⟨⟨index, -, rfl⟩, -⟩ :=
            (mem_fundingHoursLoop_iff charged through hours _ _ hrest).mp hlater
          have hsteps := mul_nonneg (natCast_nonneg index) hourLength_pos.le
          linarith [hourLength_pos]
        · exact ih _ _ hrest

end

/-! ## The loop turn by turn -/

variable {through : Time} {charged : List Time}

/-- The inner loop passes every fill before the hour. -/
theorem FundingSweep.passAll {held : Decimal} (hreached : hour ≤ through)
    (h : FundingSweep charged through hour
      (held + ((events.takeWhile (fun event => event.1 < hour)).map Prod.snd).sum)
      (events.dropWhile (fun event => event.1 < hour)) due) :
    FundingSweep charged through hour held events due := by
  induction events generalizing held with
  | nil => simpa using h
  | cons event _ ih =>
    by_cases hearly : event.1 < hour
    · refine FundingSweep.pass hreached hearly (ih ?_)
      rw [takeWhile_cons_of_pos (by simpa using hearly),
        dropWhile_cons_of_pos (by simpa using hearly), map_cons, sum_cons,
        ← add_assoc] at h
      exact h
    · rw [takeWhile_cons_of_neg (by simpa using hearly),
        dropWhile_cons_of_neg (by simpa using hearly), map_nil, sum_nil,
        add_zero] at h
      exact h

theorem head_late (events : List (Time × Decimal)) (hour : Time) :
    ∀ event ∈ (events.dropWhile (fun event => event.1 < hour)).head?, hour ≤ event.1 := by
  intro event hevent
  have hlate := head?_dropWhile_not (fun event : Time × Decimal => event.1 < hour) events
  rw [Option.mem_def.mp hevent] at hlate
  simpa using hlate

theorem fundingSweep_loop (charged : List Time) {hours : Nat} {hour : Time} (held : Decimal)
    (events : List (Time × Decimal)) (henough : through < hour + hours * hourLength) :
    FundingSweep charged through hour held events
      (fundingHoursLoop charged through hours hour held events) := by
  induction hours generalizing hour held events with
  | zero =>
    refine FundingSweep.past ?_
    simpa using henough
  | succ hours ih =>
    unfold fundingHoursLoop
    dsimp only
    split
    next hpast => exact FundingSweep.past hpast
    next hreached =>
      have hreached := not_lt.mp hreached
      have hnext : through < hour + hourLength + hours * hourLength := by
        push_cast at henough
        linarith
      refine FundingSweep.passAll hreached ?_
      split
      next hflat =>
        rw [hflat.1, hflat.2]
        exact FundingSweep.flat hreached
      next hopen =>
        split
        next hdue => exact FundingSweep.charge hreached (head_late events hour) hdue (ih _ _ hnext)
        next hskip =>
          exact FundingSweep.skip hreached (head_late events hour) hopen hskip (ih _ _ hnext)

/-- Two sweeps from one state return the same list. -/
theorem FundingSweep.unique {held : Decimal} {other : List Time}
    (h : FundingSweep charged through hour held events due)
    (hother : FundingSweep charged through hour held events other) : due = other := by
  induction h generalizing other with
  | past hpast =>
    cases hother with
    | past | flat => rfl
    | pass hreached => exact absurd hpast hreached.not_gt
    | charge hreached => exact absurd hpast hreached.not_gt
    | skip hreached => exact absurd hpast hreached.not_gt
  | pass hreached hearly _ ih =>
    cases hother with
    | past hpast => exact absurd hpast hreached.not_gt
    | pass _ _ hother => exact ih hother
    | charge _ hlate | skip _ hlate => exact absurd hearly (hlate _ rfl).not_gt
  | flat =>
    cases hother with
    | past | flat => rfl
    | charge _ _ hdue => exact absurd rfl hdue.1
    | skip _ _ hopen => exact absurd ⟨rfl, rfl⟩ hopen
  | charge hreached hlate hdue _ ih =>
    cases hother with
    | past hpast => exact absurd hpast hreached.not_gt
    | pass _ hearly => exact absurd hearly (hlate _ rfl).not_gt
    | flat => exact absurd rfl hdue.1
    | charge _ _ _ hother => rw [ih hother]
    | skip _ _ _ hskip => exact absurd hdue hskip
  | skip hreached hlate hopen hskip _ ih =>
    cases hother with
    | past hpast => exact absurd hpast hreached.not_gt
    | pass _ hearly => exact absurd hearly (hlate _ rfl).not_gt
    | flat => exact absurd ⟨rfl, rfl⟩ hopen
    | charge _ _ hdue => exact absurd hdue hskip
    | skip _ _ _ _ hother => exact ih hother

end

variable (snapshot : DeploymentSnapshot) (productId : String)

theorem signedFills_sorted :
    (signedFills snapshot productId).Pairwise (fun first second => first.1 ≤ second.1) := by
  have : Std.Total (fun first second : Time × Decimal => first.1 ≤ second.1) :=
    ⟨fun first second => le_total first.1 second.1⟩
  have : IsTrans (Time × Decimal) (fun first second => first.1 ≤ second.1) :=
    ⟨fun _ _ _ => le_trans⟩
  exact pairwise_insertionSort _ _

variable (through : Time)

/-- The uncharged whole hours up to `through` before which the book held something. -/
theorem mem_fundingHoursHeld_iff {hour : Time} :
    hour ∈ fundingHoursHeld snapshot productId through ↔
      hourLength ∣ hour ∧ hour ≤ through ∧ heldQuantityBefore snapshot productId hour ≠ 0 ∧
        hour ∉ chargedHours snapshot productId := by
  have hpos := hourLength_pos
  have hsorted := signedFills_sorted snapshot productId
  unfold fundingHoursHeld heldQuantityBefore
  cases hevents : signedFills snapshot productId with
  | nil => simp [quantityBefore]
  | cons first =>
    rw [hevents] at hsorted
    rw [mem_fundingHoursLoop_iff _ _ _ _ _ hsorted, zero_add]
    constructor
    · intro h
      obtain ⟨⟨index, -, hat⟩, hdue, hne, hfresh⟩ := h
      refine ⟨?_, hdue, hne, hfresh⟩
      rw [hat]
      exact dvd_add (dvd_mul_left _ _) (dvd_mul_left _ _)
    · intro h
      obtain ⟨⟨number, rfl⟩, hdue, hne, hfresh⟩ := h
      refine ⟨?_, hdue, hne, hfresh⟩
      -- before the first fill nothing is held
      have hfirst : first.1 / hourLength + 1 ≤ number := by
        by_contra hearly
        refine hne (quantityBefore_eq_zero ?_)
        have hnumber : hourLength * number ≤ hourLength * (first.1 / hourLength) :=
          mul_le_mul_of_nonneg_left (lt_add_one_iff.mp (not_le.mp hearly)) hpos.le
        have hfloor := hnumber.trans (mul_ediv_self_le (x := first.1) hpos.ne')
        intro event hevent
        obtain rfl | hevent := mem_cons.mp hevent
        · exact hfloor
        · exact hfloor.trans ((pairwise_cons.mp hsorted).1 event hevent)
      have hindex : 0 ≤ number - (first.1 / hourLength + 1) := sub_nonneg.mpr hfirst
      have hcount : number - (first.1 / hourLength + 1) ≤
          (through - (first.1 / hourLength + 1) * hourLength) / hourLength := by
        rw [Int.le_ediv_iff_mul_le hpos]
        linarith [hdue, mul_comm hourLength number, sub_mul number (first.1 / hourLength + 1) hourLength]
      refine ⟨(number - (first.1 / hourLength + 1)).toNat, ?_, ?_⟩
      · exact (toNat_lt_toNat (by linarith)).mpr (lt_add_one_iff.mpr hcount)
      · rw [toNat_of_nonneg hindex]
        ring

theorem fundingHoursHeld_increasing :
    (fundingHoursHeld snapshot productId through).Pairwise (· < ·) := by
  have hsorted := signedFills_sorted snapshot productId
  unfold fundingHoursHeld
  cases hevents : signedFills snapshot productId with
  | nil => exact nil
  | cons =>
    rw [hevents] at hsorted
    exact fundingHoursLoop_increasing _ _ _ _ _ hsorted

theorem fundingHoursHeld_nodup : (fundingHoursHeld snapshot productId through).Nodup :=
  (fundingHoursHeld_increasing snapshot productId through).imp ne_of_lt

/-- The call ends, and the bounded recursion returns its list. -/
theorem fundingHoursReturn_iff : FundingHoursReturn snapshot productId through due ↔
      due = fundingHoursHeld snapshot productId through := by
  unfold FundingHoursReturn fundingHoursHeld
  cases signedFills snapshot productId with
  | nil => exact Iff.rfl
  | cons first rest =>
    have hpos := hourLength_pos
    have henough : through < (first.1 / hourLength + 1) * hourLength +
        ((through - (first.1 / hourLength + 1) * hourLength) / hourLength + 1).toNat *
          hourLength := by
      have hfloor := lt_ediv_add_one_mul_self
        (through - (first.1 / hourLength + 1) * hourLength) hpos
      have hcount := self_le_toNat
        ((through - (first.1 / hourLength + 1) * hourLength) / hourLength + 1)
      have hcover := hfloor.trans_le (mul_le_mul_of_nonneg_right hcount hpos.le)
      linarith
    have hruns := fundingSweep_loop (chargedHours snapshot productId) 0 (first :: rest) henough
    constructor
    · exact fun h => h.unique hruns
    · intro h
      rw [h]
      exact hruns

/-- The sweep returns, in order, the whole uncharged hours up to the horizon before which the book
held something. -/
theorem funding_hours_swept (snapshot : DeploymentSnapshot) (productId : String) (through : Time) :
    ∃ due, (∀ other, FundingHoursReturn snapshot productId through other ↔ other = due) ∧
      due.Pairwise (· < ·) ∧
      ∀ hour, hour ∈ due ↔ hourLength ∣ hour ∧ hour ≤ through ∧
        heldQuantityBefore snapshot productId hour ≠ 0 ∧
        hour ∉ chargedHours snapshot productId :=
  ⟨fundingHoursHeld snapshot productId through,
    fun _ => fundingHoursReturn_iff snapshot productId through,
    fundingHoursHeld_increasing snapshot productId through,
    fun _ => mem_fundingHoursHeld_iff snapshot productId through⟩

end Thytrader.Trading
