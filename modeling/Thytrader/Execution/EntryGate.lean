import Thytrader.Backtest.Occupancy
import Thytrader.Execution.RuntimeOps

/-!
# The entry gate

`_entry_attempt_mode` of `execution/entry.py`: whether a closed bar may open the book, add
to it, or is skipped. The backtest asks the same question with `_entry_gate`, which reads
the book and never a phase. The runtime reads the phase, and resting protection moves a
held book from OPEN to PENDING_EXIT (`_ensure_take_profit`, `_mark_pending_exit`); there
the add is refused. So the two gates agree on a held book exactly while its phase is OPEN
(`pyramid_offered_alike_iff`).
-/

namespace Thytrader.Execution

open Trading Strategies Backtest

/-- What a bar may attempt. -/
inductive EntryMode where
  | new
  | pyramid
  deriving DecidableEq, Repr

/-- `_document_open_book_count`: distinct product books and pending entries. -/
def documentOpenBookCount (snapshot : DeploymentSnapshot) : Nat :=
  let deployment := snapshot.deployment
  let busy := fun phase : RuntimePhase => phase ≠ .flat
  let held := (snapshotPositions snapshot).map
    (fun position => resolvedProductId position.productId deployment)
  let working :=
    if snapshot.instrumentRuntimes ≠ [] then
      (snapshot.instrumentRuntimes.filter (fun runtime => busy runtime.phase)).map (·.productId)
    else if snapshot.position.isSome ∨ busy deployment.phase then [deployment.productId]
    else []
  (held ++ working).dedup.length

def entryAttemptMode (inhibited : DeploymentMode → Bool) (snapshot : DeploymentSnapshot)
    (strategy : StrategyDefinition) : Option EntryMode :=
  let deployment := snapshot.deployment
  if entriesAllowed inhibited deployment = false then none
  else if deployment.phase = .flat then
    if 0 < deployment.cooldownBarsRemaining then none
    else if strategy.portfolioLimits.maxConcurrentPositions ≤ documentOpenBookCount snapshot then
      none
    else some .new
  else if deployment.phase = .open ∧ snapshot.position.isSome ∧ activeEntry snapshot = none then
    some .pyramid
  else none

/-! ## Adding to a held book -/

/-- One book held by runtime and backtest that may be added to at the mark: no entry works, no
cooldown runs, entries are allowed. -/
structure AddDue (inhibited : DeploymentMode → Bool) (strategy : StrategyDefinition)
    (mark : Decimal) (snapshot : DeploymentSnapshot) (book : Book) : Prop where
  pyramiding : strategy.entry.pyramiding = true
  allowed : entriesAllowed inhibited snapshot.deployment = true
  inMarket : snapshot.deployment.phase.occupied = true
  idle : activeEntry snapshot = none ∧ book.pending = none
  cooled : snapshot.deployment.cooldownBarsRemaining = 0 ∧ book.cooldownBars = 0
  held : ∃ position modelled, snapshot.position = some position ∧ book.position = some modelled ∧
    modelled.side = position.side ∧ modelled.entry.price = position.entryPrice ∧
    (modelled.addCount : Int) = position.addCount ∧
    canPyramidAdd strategy modelled.side modelled.entry.price mark modelled.addCount = true

section

variable {inhibited : DeploymentMode → Bool} {strategy : StrategyDefinition} {mark : Decimal}
  {snapshot : DeploymentSnapshot} {book : Book}

/-- The backtest lets the add be sized. -/
theorem AddDue.entryGate_eq_none (hdue : AddDue inhibited strategy mark snapshot book)
    (mayOpenBook : Bool) : entryGate book strategy mark mayOpenBook false = none := by
  obtain ⟨position, modelled, -, hmodelled, -, -, -, hadd⟩ := hdue.held
  unfold entryGate
  rw [if_neg (by simp), hdue.idle.2, hdue.cooled.2, hmodelled]
  simp [hadd]

/-- The runtime offers the add exactly in phase OPEN. -/
theorem AddDue.mode_eq_pyramid_iff (hdue : AddDue inhibited strategy mark snapshot book) :
    entryAttemptMode inhibited snapshot strategy = some .pyramid ↔
      snapshot.deployment.phase = .open := by
  obtain ⟨position, -, hposition, -⟩ := hdue.held
  have hidle := hdue.idle.1
  have hoccupied := hdue.inMarket
  unfold entryAttemptMode
  dsimp only
  rw [hdue.allowed, hposition, hidle]
  cases hphase : snapshot.deployment.phase with
  | «open» => simp
  | pendingExit => simp
  | flat =>
    rw [hphase] at hoccupied
    exact absurd hoccupied (by decide)
  | pendingEntry =>
    rw [hphase] at hoccupied
    exact absurd hoccupied (by decide)

end

/-- A due add is offered by both gates alike exactly while the phase is OPEN. -/
theorem pyramid_offered_alike_iff {inhibited : DeploymentMode → Bool}
    {strategy : StrategyDefinition} {mark : Decimal} {snapshot : DeploymentSnapshot} {book : Book}
    (hdue : AddDue inhibited strategy mark snapshot book) (mayOpenBook : Bool) :
    (entryAttemptMode inhibited snapshot strategy = some .pyramid ↔
        entryGate book strategy mark mayOpenBook false = none) ↔
      snapshot.deployment.phase = .open := by
  rw [hdue.mode_eq_pyramid_iff, iff_true_right (hdue.entryGate_eq_none mayOpenBook)]

/-! A long bought at 100 with its target at 124, marked at 101. Its take-profit rests, so the
runtime stands in PENDING_EXIT; without a target nothing rests and it stands in OPEN. -/

def heldDeployment (phase : RuntimePhase) : Deployment :=
  { id := 1, strategyFingerprint := some "hourly", strategyId := some 2, productId := "BTC-USDC"
    mode := .paper, status := .running, cash := 900, phase, createdAt := 0, updatedAt := 0
    timeframe := some "1h" }

def heldSnapshot (phase : RuntimePhase) (target : Option Decimal) : DeploymentSnapshot :=
  let position : Trading.Position :=
    { deploymentId := 1, quantity := 1, entryPrice := 100, stopPrice := 88, targetPrice := target
      enteredBar := 0, updatedAt := 0, productId := "BTC-USDC" }
  let entry : Order :=
    { id := 4, deploymentId := 1, intentId := 3, clientOrderId := "entry", side := .buy
      kind := .postOnlyLimit, quantity := 1, status := .filled, createdAt := 0, updatedAt := 0
      price := some 100, filledQuantity := 1 }
  let takeProfit : Order :=
    { id := 6, deploymentId := 1, intentId := 5, clientOrderId := "take_profit", side := .sell
      kind := .postOnlyLimit, quantity := 1, status := .open, createdAt := 0, updatedAt := 0
      price := target }
  { deployment := heldDeployment phase
    position := some position
    positions := [position]
    orders := entry :: (if target.isSome then [takeProfit] else [])
    intents :=
      [{ id := 3, deploymentId := 1, clientOrderId := "entry", purpose := .entry, side := .buy
         kind := .postOnlyLimit, quantity := 1, createdAt := 0, candleStartsAt := 0 },
        { id := 5, deploymentId := 1, clientOrderId := "take_profit", purpose := .takeProfit
          side := .sell, kind := .postOnlyLimit, quantity := 1, createdAt := 0
          candleStartsAt := 0 }] }

def heldBook (target : Option Decimal) : Book where
  position := some
    { entry := ⟨0, 100, 1, 100, 0, 0, none, none, none⟩, stopPrice := 88, targetPrice := target
      enteredBarIndex := 0 }

theorem heldSnapshot_addDue {phase : RuntimePhase} (target : Option Decimal)
    (hphase : phase.occupied = true) :
    AddDue (fun _ => false) pyramidStrategy 101 (heldSnapshot phase target) (heldBook target) where
  pyramiding := rfl
  allowed := rfl
  inMarket := hphase
  idle := by
    cases target with
    | none | some => exact ⟨rfl, rfl⟩
  cooled := ⟨rfl, rfl⟩
  held := by
    have hadd : canPyramidAdd pyramidStrategy .long 100 101 1 = true := by decide +kernel
    exact ⟨_, _, rfl, rfl, rfl, rfl, rfl, hadd⟩

theorem heldSnapshot_refuses_add :
    AddDue (fun _ => false) pyramidStrategy 101 (heldSnapshot .pendingExit (some 124))
      (heldBook (some 124)) ∧
    entryGate (heldBook (some 124)) pyramidStrategy 101 false false = none ∧
    entryAttemptMode (fun _ => false) (heldSnapshot .pendingExit (some 124)) pyramidStrategy =
      none := by
  have hdue := heldSnapshot_addDue (some 124) (show RuntimePhase.occupied .pendingExit = true from rfl)
  exact ⟨hdue, hdue.entryGate_eq_none false, by decide +kernel⟩

theorem heldSnapshot_offers_add :
    (entryAttemptMode (fun _ => false) (heldSnapshot .open none) pyramidStrategy = some .pyramid ↔
      entryGate (heldBook none) pyramidStrategy 101 false false = none) :=
  (pyramid_offered_alike_iff (heldSnapshot_addDue none rfl) false).mpr rfl

end Thytrader.Execution
