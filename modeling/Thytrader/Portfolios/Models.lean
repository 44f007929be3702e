import Thytrader.Backtest.ResultDecimals
import Thytrader.MarketData.Instruments

/-!
# Portfolio records, commands and journal texts

`portfolios/models.py`, `values.py`, `vocabulary.py`, `errors.py`, `allocation.py` and
`journal_changes.py`. A portfolio row and its sleeves are plain values; the commands
that change them are validated, so a command's fields carry the interval their
validator enforces.

Mirroring notes:
- Weights, reserves, limits and amounts travel as canonical decimal texts. Two canonical texts are
  equal exactly when their numbers are (`Lib.PlainDecimal.Canonical.eq_of_value`) and none is empty,
  so the model keeps the number and `a or b` on an optional one is `Option.getD`.
- Names, notes and mandates were trimmed and checked at the boundary; no rule reads their
  characters.
- A journal entry's own `entry_id` is left out: nothing reads it. So are the strategy facts that
  only views report (`covered_product_ids`, `valid`, `current_fingerprint`).
-/

namespace Thytrader.Portfolios

open MarketData
open Backtest (DecimalTuple canonicalDecimal partitionPoint)

/-! ## Failures -/

/-- The portfolio failures. `conflict` and `sleeveExists` subclass `PortfolioValidationError`;
`strategyLibrary` is a strategy store that could not answer. -/
inductive PortfolioError where
  | notFound (message : String)
  | sleeveNotFound (message : String)
  | strategyNotFound (message : String)
  | proposalNotFound (message : String)
  | revisionConflict (currentRevision : Nat)
  | validation (code message : String)
  | conflict (code message : String)
  | sleeveExists (sleeveId : Uuid)
  | liveAcknowledgement (message : String)
  | strategyLibrary
  | valueError (message : String)
  deriving DecidableEq, Repr

/-- What a portfolio call returns. -/
abbrev Outcome (α : Type) := Except PortfolioError α

/-- Refuse unless the condition holds. -/
def require (condition : Prop) [Decidable condition] (failure : PortfolioError) : Outcome Unit :=
  if condition then .ok () else .error failure

theorem require_eq_ok {condition : Prop} [Decidable condition] {failure : PortfolioError} {u : Unit}
    (h : require condition failure = .ok u) : condition := by
  obtain ⟨hc, h⟩ := of_ite_ne_else h nofun
  exact hc

/-! ## Vocabulary -/

inductive PortfolioMode where
  | paper
  | live
  deriving DecidableEq, Repr

/-- The literal itself. -/
def PortfolioMode.text : PortfolioMode → String
  | .paper => "paper"
  | .live => "live"

/-- `JournalKind`, the kinds the modelled functions write. -/
inductive JournalKind where
  | created
  | settingsChanged
  | sleeveAdded
  | sleeveUpdated
  | sleeveRemoved
  | weightsChanged
  | limitsChanged
  | managerChanged
  | deploymentPaused
  | deploymentResumed
  | proposalSubmitted
  | proposalApproved
  | proposalDeclined
  | proposalFailed
  deriving DecidableEq, Repr

inductive JournalActor where
  | operator
  | system
  | manager
  deriving DecidableEq, Repr

inductive JournalChannel where
  | browser
  | api
  | system
  deriving DecidableEq, Repr

inductive JournalReason where
  | operator
  | strategyDeleted
  | managerProposal
  | breaker
  deriving DecidableEq, Repr

def maxSleeves : Nat := 32

def fractionPlaces : Nat := 4

def quotePlaces : Nat := 8

def maxCapitalQuote : Decimal := 1000000000000000

/-! ## Validated values -/

/-- `_ranged`: at most `places` decimal places, inside the documented interval. -/
def ranged (value : Decimal) (places : Nat) (minimum maximum : Decimal)
    (minimumInclusive maximumInclusive : Bool) : Bool :=
  (value * 10 ^ places).den = 1 &&
    (if minimumInclusive then decide (minimum ≤ value) else decide (minimum < value)) &&
    (if maximumInclusive then decide (value ≤ maximum) else decide (value < maximum))

/-- `_weight_fraction`: more than 0 and at most 1. -/
def weightFraction (value : Decimal) : Bool := ranged value fractionPlaces 0 1 false true

/-- `_reserve_fraction`: at least 0 and below 1. -/
def reserveFraction (value : Decimal) : Bool := ranged value fractionPlaces 0 1 true false

/-- `_limit_fraction`: more than 0 and at most 1. -/
def limitFraction (value : Decimal) : Bool := ranged value fractionPlaces 0 1 false true

/-- `_drawdown_fraction`: more than 0 and below 1. -/
def drawdownFraction (value : Decimal) : Bool := ranged value fractionPlaces 0 1 false false

/-- `_weekly_change_fraction`: more than 0 and at most 1. -/
def weeklyChangeFraction (value : Decimal) : Bool := ranged value fractionPlaces 0 1 false true

/-- `_quote_amount`: positive, at most `MAX_CAPITAL_QUOTE`. -/
def quoteAmount (value : Decimal) : Bool := ranged value quotePlaces 0 maxCapitalQuote false true

abbrev WeightFractionText := { value : Decimal // weightFraction value = true }

abbrev ReserveFractionText := { value : Decimal // reserveFraction value = true }

abbrev LimitFractionText := { value : Decimal // limitFraction value = true }

abbrev DrawdownFractionText := { value : Decimal // drawdownFraction value = true }

abbrev WeeklyChangeFractionText := { value : Decimal // weeklyChangeFraction value = true }

abbrev QuoteAmountText := { value : Decimal // quoteAmount value = true }

theorem weightFraction_pos {value : Decimal} (h : weightFraction value = true) : 0 < value := by
  simp only [weightFraction, ranged, Bool.and_eq_true, Bool.false_eq_true, if_false, if_true,
    decide_eq_true_eq] at h
  exact h.1.2

/-! ## Settings -/

structure PortfolioLimits where
  maxTotalExposureFraction : LimitFractionText := ⟨1, by decide +kernel⟩
  maxPerAssetFraction : LimitFractionText := ⟨1, by decide +kernel⟩
  dailyLossQuote : Option QuoteAmountText := none
  maxDrawdownFraction : Option DrawdownFractionText := none
  deriving DecidableEq, Repr

structure ManagerPermissions where
  mayRebalance : Bool := false
  maxWeightChangePerWeek : WeeklyChangeFractionText := ⟨1 / 10, by decide +kernel⟩
  mayPauseSleeves : Bool := false
  mayProposeSleeves : Bool := false
  deriving DecidableEq, Repr

structure ManagerSettings where
  mandate : String := ""
  permissions : ManagerPermissions := {}
  deriving DecidableEq, Repr

/-! ## Journal -/

/-- `JournalChange`: one field's value before and after, as display text. -/
structure JournalChange where
  field : String
  before : Option String := none
  after : Option String := none
  deriving DecidableEq, Repr

structure JournalDetail where
  sleeveId : Option Uuid := none
  strategyId : Option Uuid := none
  strategyName : Option String := none
  reason : Option JournalReason := none
  changes : List JournalChange := []
  deploymentIds : List Uuid := []
  proposalId : Option Uuid := none
  rationale : Option String := none
  note : Option String := none
  deriving DecidableEq, Repr

structure JournalEntry where
  portfolioId : Uuid
  occurredAt : Time
  kind : JournalKind
  actor : JournalActor
  channel : JournalChannel
  summary : String
  detail : JournalDetail
  revision : Nat
  deriving DecidableEq, Repr

/-- `MutationContext`: who made a change, through which channel, and when. -/
structure MutationContext where
  actor : JournalActor
  channel : JournalChannel
  occurredAt : Time
  deriving DecidableEq, Repr

/-- `text[:n]`. -/
def clipText (text : String) (n : Nat) : String := String.ofList (text.toList.take n)

def journalEntry (portfolioId : Uuid) (kind : JournalKind) (context : MutationContext)
    (summary : String) (revision : Nat) (detail : JournalDetail := {}) : JournalEntry where
  portfolioId := portfolioId
  occurredAt := context.occurredAt
  kind := kind
  actor := context.actor
  channel := context.channel
  summary := clipText summary 500
  detail := detail
  revision := revision

/-! ## Rows -/

structure Portfolio where
  portfolioId : Uuid
  name : String
  mode : PortfolioMode
  quoteCurrency : SpotQuoteCurrency
  capitalQuote : Decimal
  cashReserveFraction : Decimal
  limits : PortfolioLimits
  manager : ManagerSettings
  revision : Nat
  createdAt : Time
  updatedAt : Time
  deriving DecidableEq, Repr

/-- `Sleeve`: one strategy held in a portfolio with a capital weight. -/
structure Sleeve where
  sleeveId : Uuid
  portfolioId : Uuid
  strategyId : Uuid
  weightFraction : Decimal
  note : Option String
  createdAt : Time
  updatedAt : Time
  deriving DecidableEq, Repr

/-- `SleeveStrategy`: current facts about a sleeve's strategy. -/
structure SleeveStrategy where
  strategyId : Uuid
  name : String
  productId : Option String
  timeframe : Option String
  deriving DecidableEq, Repr

/-- `SleeveStrategy.quote_currency`: `None` when the primary product is not parseable. -/
def SleeveStrategy.quoteCurrency (strategy : SleeveStrategy) : Option SpotQuoteCurrency :=
  strategy.productId.bind (fun productId => (MarketData.quoteCurrency productId).toOption)

structure SleeveView where
  sleeve : Sleeve
  strategy : SleeveStrategy
  deriving DecidableEq, Repr

/-- `PortfolioAggregate`: a portfolio with every sleeve, in creation order. -/
structure PortfolioAggregate where
  portfolio : Portfolio
  sleeves : List SleeveView
  deriving DecidableEq, Repr

def PortfolioAggregate.rows (current : PortfolioAggregate) : List Sleeve :=
  current.sleeves.map (·.sleeve)

def PortfolioAggregate.sleeve (current : PortfolioAggregate) (sleeveId : Uuid) :
    Outcome SleeveView :=
  match current.sleeves.find? (fun view => view.sleeve.sleeveId = sleeveId) with
  | some view => .ok view
  | none => .error (.sleeveNotFound "Sleeve was not found in this portfolio.")

/-! ## Commands -/

structure SleeveBatchItem where
  strategyId : Uuid
  weightFraction : WeightFractionText
  note : Option String := none

structure PortfolioCreateRequest where
  name : String
  mode : PortfolioMode
  quoteCurrency : SpotQuoteCurrency := .usdc
  capitalQuote : QuoteAmountText
  cashReserveFraction : ReserveFractionText := ⟨0, by decide +kernel⟩
  limits : PortfolioLimits := {}
  manager : ManagerSettings := {}
  sleeves : List SleeveBatchItem := []
  atMostMaxSleeves : sleeves.length ≤ maxSleeves := by decide
  requireDistinctStrategies : (sleeves.map (·.strategyId)).Nodup := by decide

structure PortfolioUpdateRequest where
  revision : Nat
  name : Option String := none
  capitalQuote : Option QuoteAmountText := none
  cashReserveFraction : Option ReserveFractionText := none
  limits : Option PortfolioLimits := none
  manager : Option ManagerSettings := none

structure SleeveAddRequest where
  revision : Nat
  strategyId : Uuid
  weightFraction : WeightFractionText
  note : Option String := none

structure SleevesAddRequest where
  revision : Nat
  sleeves : List SleeveBatchItem
  nonempty : sleeves ≠ [] := by decide
  atMostMaxSleeves : sleeves.length ≤ maxSleeves := by decide
  requireDistinctStrategies : (sleeves.map (·.strategyId)).Nodup := by decide

structure SleeveUpdateRequest where
  revision : Nat
  weightFraction : Option WeightFractionText := none
  note : Option String := none

structure WeightAssignment where
  sleeveId : Uuid
  weightFraction : WeightFractionText
  deriving DecidableEq, Repr

structure SetWeightsRequest where
  revision : Nat
  weights : List WeightAssignment
  cashReserveFraction : Option ReserveFractionText := none
  nonempty : weights ≠ [] := by decide
  atMostMaxSleeves : weights.length ≤ maxSleeves := by decide

/-! ## Allocation and display text -/

/-- The finite decimal of a number: its digits over a power of ten that clears the
denominator. -/
def decimalTuple (value : Decimal) : DecimalTuple :=
  let places := Nat.log2 value.den
  ⟨value < 0, value.num.natAbs * 10 ^ places / value.den, -places⟩

/-- `canonical_decimal`. -/
def decimalText (value : Decimal) : List Char := (canonicalDecimal (decimalTuple value)).getD []

/-- `percent_text`, also `percent`. -/
def percentText (fraction : Decimal) : String :=
  String.ofList (decimalText (fraction * 100)) ++ "%"

/-- `f"{digits:,}"`: digits grouped by three. -/
def groupedDigits (digits : List Char) : List Char :=
  ([','].intercalate (digits.reverse.toChunks 3)).reverse

def quoteText (amount : Decimal) (currency : SpotQuoteCurrency) : String :=
  let (whole, separator, fraction) := partitionPoint (decimalText amount)
  let sign := if whole.head? = some '-' then ['-'] else []
  let digits := if whole.head? = some '-' then whole.tail else whole
  String.ofList (sign ++ groupedDigits digits ++ (if separator then ['.'] else []) ++ fraction) ++
    " " ++ currency.text

def allocatedFraction (weights : List Decimal) : Decimal := weights.sum

/-- `require_allocation`: weights plus the cash reserve at most 100%. -/
def requireAllocation (weights : List Decimal) (cashReserveFraction : Decimal) : Outcome Unit :=
  let allocated := allocatedFraction weights
  let total := allocated + cashReserveFraction
  require (total ≤ 1) (.validation "portfolio_allocation_exceeded"
    ("Sleeve weights (" ++ percentText allocated ++ ") plus the cash reserve (" ++
      percentText cashReserveFraction ++ ") come to " ++ percentText total ++
      "; together they must not exceed 100%."))

/-- `_short`. -/
def shortText (value : Option String) : String :=
  let text := match value with
    | none => "none"
    | some v => String.ofList (v.toList.map (fun c => if c = '\n' then ' ' else c))
  if text.length ≤ 60 then text else clipText text 57 ++ "…"

def describeChanges (changes : List JournalChange) : String :=
  "; ".intercalate (changes.map (fun change =>
    change.field ++ " " ++ shortText change.before ++ " → " ++ shortText change.after))

def fieldChange {α : Type} [DecidableEq α] (field : String) (render : α → String)
    (before after : α) : List JournalChange :=
  if after = before then [] else [⟨field, some (render before), some (render after)⟩]

def settingsChanges (portfolio : Portfolio) (request : PortfolioUpdateRequest) :
    List JournalChange :=
  let quote (amount : Decimal) := quoteText amount portfolio.quoteCurrency
  (match request.name with
    | none => []
    | some name => fieldChange "name" id portfolio.name name) ++
  (match request.capitalQuote with
    | none => []
    | some capital => fieldChange "capital" quote portfolio.capitalQuote capital.val) ++
  (match request.cashReserveFraction with
    | none => []
    | some reserve =>
      fieldChange "cash reserve" percentText portfolio.cashReserveFraction reserve.val)

def limitText (value : Option Decimal) (asPercent : Bool) : String :=
  match value with
  | none => "none"
  | some v => if asPercent then percentText v else String.ofList (decimalText v)

def limitsChanges (current : PortfolioLimits) (proposed : Option PortfolioLimits) :
    List JournalChange :=
  match proposed with
  | none => []
  | some proposed =>
    fieldChange "max total exposure" (limitText · true)
      (some current.maxTotalExposureFraction.val) (some proposed.maxTotalExposureFraction.val) ++
    fieldChange "max per asset" (limitText · true)
      (some current.maxPerAssetFraction.val) (some proposed.maxPerAssetFraction.val) ++
    fieldChange "daily loss stop" (limitText · false)
      (current.dailyLossQuote.map (·.val)) (proposed.dailyLossQuote.map (·.val)) ++
    fieldChange "max drawdown stop" (limitText · true)
      (current.maxDrawdownFraction.map (·.val)) (proposed.maxDrawdownFraction.map (·.val))

def onOff (value : Bool) : String := if value then "on" else "off"

def managerChanges (current : ManagerSettings) (proposed : Option ManagerSettings) :
    List JournalChange :=
  match proposed with
  | none => []
  | some proposed =>
    let before := current.permissions
    let after := proposed.permissions
    fieldChange "mandate" (orBlank · "none") current.mandate proposed.mandate ++
    fieldChange "may rebalance" onOff before.mayRebalance after.mayRebalance ++
    fieldChange "may pause sleeves" onOff before.mayPauseSleeves after.mayPauseSleeves ++
    fieldChange "may propose sleeves" onOff before.mayProposeSleeves after.mayProposeSleeves ++
    fieldChange "max weight change per week" percentText before.maxWeightChangePerWeek.val
      after.maxWeightChangePerWeek.val

example : percentText (3333 / 10000) = "33.33%" ∧ quoteText (2500000 / 1000) .usdc = "2,500 USDC" := by
  decide +kernel

end Thytrader.Portfolios
