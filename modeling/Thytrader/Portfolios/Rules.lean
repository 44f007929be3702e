import Thytrader.Lib.Dict
import Thytrader.Portfolios.Models
import Mathlib.Algebra.Order.BigOperators.Group.List

/-!
# Mutation plans

`portfolios/rules.py`: every portfolio change is planned from the current aggregate and
a validated command, before anything is written. A plan is the next portfolio row, the
complete next sleeve set and the journal to append; `none` is a command that would
change nothing.

`Sound` is what the rules keep: weights and reserve in their intervals and together at
most 1, one sleeve per id and per strategy, at most `MAX_SLEEVES`. `Advances` is what a
plan may change in the portfolio row. Each planner has one lemma that says both
(`planX_keeps`).
-/

namespace Thytrader.Portfolios

open Lib List

variable {plan : MutationPlan} {sleeves : List Sleeve} {sleeveId : Uuid}

structure MutationPlan where
  portfolio : Portfolio
  sleeves : List Sleeve
  journal : List JournalEntry
  deriving DecidableEq, Repr

def requireRevision (portfolio : Portfolio) (expected : Nat) : Outcome Unit :=
  require (portfolio.revision = expected) (.revisionConflict portfolio.revision)

def requireStrategyQuote (strategy : SleeveStrategy) (portfolio : Portfolio) : Outcome Unit :=
  match strategy.quoteCurrency with
  | none => .error (.validation "portfolio_sleeve_product_unknown"
      ("Strategy “" ++ strategy.name ++ "” has no readable market yet; fix and save it first."))
  | some quote => require (quote = portfolio.quoteCurrency)
      (.validation "portfolio_sleeve_quote_mismatch"
        ("Strategy “" ++ strategy.name ++ "” trades in " ++ quote.text ++ "; this portfolio holds " ++
          portfolio.quoteCurrency.text ++
          ". Every sleeve must use the portfolio's quote currency."))

def noteOrNone (note : Option String) : Option String := orText note none

/-! ## Adding sleeves -/

def newSleeve (portfolio : Portfolio) (strategy : SleeveStrategy) (weight : WeightFractionText)
    (note : Option String) (sleeveId : Uuid) (context : MutationContext) : Sleeve where
  sleeveId := sleeveId
  portfolioId := portfolio.portfolioId
  strategyId := strategy.strategyId
  weightFraction := weight.val
  note := noteOrNone note
  createdAt := context.occurredAt
  updatedAt := context.occurredAt

def sleeveAddedEntry (portfolio : Portfolio) (strategy : SleeveStrategy)
    (weight : WeightFractionText) (sleeveId : Uuid) (revision : Nat) (context : MutationContext) :
    JournalEntry :=
  let market := (orText strategy.productId (some "unknown market")).getD ""
  let clock := match orText strategy.timeframe none with
    | none => ""
    | some timeframe => " · " ++ timeframe
  journalEntry portfolio.portfolioId .sleeveAdded context
    ("Added sleeve “" ++ strategy.name ++ "” (" ++ market ++ clock ++ ") at " ++
      percentText weight.val ++ ".")
    revision
    { sleeveId := some sleeveId
      strategyId := some strategy.strategyId
      strategyName := some strategy.name
      reason := some .operator
      changes := [{ field := "weight", after := some (percentText weight.val) }] }

/-- The first sleeve that already holds one of the strategies is named. -/
def requireNewStrategies (current : List Sleeve) (strategies : List SleeveStrategy) :
    Outcome Unit :=
  match strategies.findSome? (fun strategy =>
      (current.find? (fun sleeve => sleeve.strategyId = strategy.strategyId)).map (·.sleeveId)) with
  | some sleeveId => .error (.sleeveExists sleeveId)
  | none => .ok ()

def planAddSleeve (current : PortfolioAggregate) (strategy : SleeveStrategy)
    (request : SleeveAddRequest) (sleeveId : Uuid) (context : MutationContext) :
    Outcome MutationPlan := do
  let portfolio := current.portfolio
  requireRevision portfolio request.revision
  requireNewStrategies current.rows [strategy]
  require (current.sleeves.length < maxSleeves) (.validation "portfolio_sleeve_limit"
    ("A portfolio holds at most " ++ toString maxSleeves ++ " sleeves."))
  requireStrategyQuote strategy portfolio
  requireAllocation (current.rows.map (·.weightFraction) ++ [request.weightFraction.val])
    portfolio.cashReserveFraction
  let revision := portfolio.revision + 1
  return {
    portfolio := { portfolio with revision := revision, updatedAt := context.occurredAt }
    sleeves := current.rows ++
      [newSleeve portfolio strategy request.weightFraction request.note sleeveId context]
    journal := [sleeveAddedEntry portfolio strategy request.weightFraction sleeveId revision
      context] }

/-- `_plan_sleeves`: a sleeve batch at the supplied portfolio's target revision. In the
`existing` dict a strategy's last sleeve wins; `zip(..., strict=True)` refuses lists of
different lengths. -/
def planSleeves (portfolio : Portfolio) (current : List Sleeve) (strategies : List SleeveStrategy)
    (items : List SleeveBatchItem) (sleeveIds : List Uuid) (context : MutationContext) :
    Outcome MutationPlan := do
  requireNewStrategies current.reverse strategies
  require (current.length + items.length ≤ maxSleeves) (.validation "portfolio_sleeve_limit"
    ("A portfolio holds at most " ++ toString maxSleeves ++ " sleeves; it has " ++
      toString current.length ++ " and the batch adds " ++ toString items.length ++ "."))
  strategies.forM (requireStrategyQuote · portfolio)
  requireAllocation (current.map (·.weightFraction) ++ items.map (·.weightFraction.val))
    portfolio.cashReserveFraction
  require (strategies.length = items.length ∧ items.length = sleeveIds.length)
    (.valueError "zip() arguments differ in length")
  let batch := strategies.zip (items.zip sleeveIds)
  return {
    portfolio := portfolio
    sleeves := current ++ batch.map (fun (strategy, item, sleeveId) =>
      newSleeve portfolio strategy item.weightFraction item.note sleeveId context)
    journal := batch.map (fun (strategy, item, sleeveId) =>
      sleeveAddedEntry portfolio strategy item.weightFraction sleeveId portfolio.revision context) }

def planAddSleeves (current : PortfolioAggregate) (strategies : List SleeveStrategy)
    (request : SleevesAddRequest) (sleeveIds : List Uuid) (context : MutationContext) :
    Outcome MutationPlan := do
  let portfolio := current.portfolio
  requireRevision portfolio request.revision
  planSleeves
    { portfolio with revision := portfolio.revision + 1, updatedAt := context.occurredAt }
    current.rows strategies request.sleeves sleeveIds context

/-- The row `plan_create` starts from, at revision 1. -/
def createdPortfolio (request : PortfolioCreateRequest) (portfolioId : Uuid)
    (context : MutationContext) : Portfolio where
  portfolioId := portfolioId
  name := request.name
  mode := request.mode
  quoteCurrency := request.quoteCurrency
  capitalQuote := request.capitalQuote.val
  cashReserveFraction := request.cashReserveFraction.val
  limits := request.limits
  manager := request.manager
  revision := 1
  createdAt := context.occurredAt
  updatedAt := context.occurredAt

def planCreate (request : PortfolioCreateRequest) (portfolioId : Uuid) (context : MutationContext)
    (strategies : List SleeveStrategy) (sleeveIds : List Uuid) : Outcome MutationPlan := do
  let summary := "Created " ++ request.mode.text ++ " portfolio “" ++ request.name ++ "” with " ++
    quoteText request.capitalQuote.val request.quoteCurrency ++ " and a " ++
    percentText request.cashReserveFraction.val ++ " cash reserve."
  let changes : List JournalChange := [
    { field := "mode", after := some request.mode.text },
    { field := "quote_currency", after := some request.quoteCurrency.text },
    { field := "capital_quote",
      after := some (String.ofList (decimalText request.capitalQuote.val)) },
    { field := "cash_reserve_fraction",
      after := some (String.ofList (decimalText request.cashReserveFraction.val)) }]
  let entry := journalEntry portfolioId .created context summary 1
    { reason := some .operator, changes := changes }
  let sleeves ← planSleeves (createdPortfolio request portfolioId context) [] strategies
    request.sleeves sleeveIds context
  return { sleeves with journal := entry :: sleeves.journal }

/-! ## Settings -/

def planUpdate (current : PortfolioAggregate) (request : PortfolioUpdateRequest)
    (context : MutationContext) : Outcome (Option MutationPlan) := do
  let portfolio := current.portfolio
  requireRevision portfolio request.revision
  let settings := settingsChanges portfolio request
  let limits := limitsChanges portfolio.limits request.limits
  let manager := managerChanges portfolio.manager request.manager
  if settings = [] ∧ limits = [] ∧ manager = [] then return none
  let reserve := (request.cashReserveFraction.map (·.val)).getD portfolio.cashReserveFraction
  requireAllocation (current.rows.map (·.weightFraction)) reserve
  let revision := portfolio.revision + 1
  let sections : List (JournalKind × List JournalChange × String) := [
    (.settingsChanged, settings, "settings"),
    (.limitsChanged, limits, "limits"),
    (.managerChanged, manager, "manager settings")]
  let entries := (sections.filter (fun (_, changes, _) => changes ≠ [])).map
    (fun (kind, changes, label) =>
      journalEntry portfolio.portfolioId kind context
        ("Changed " ++ label ++ ": " ++ describeChanges changes ++ ".") revision
        { reason := some .operator, changes := changes })
  return some {
    portfolio := { portfolio with
      name := (orText request.name none).getD portfolio.name
      capitalQuote := (request.capitalQuote.map (·.val)).getD portfolio.capitalQuote
      cashReserveFraction := reserve
      limits := request.limits.getD portfolio.limits
      manager := request.manager.getD portfolio.manager
      revision := revision
      updatedAt := context.occurredAt }
    sleeves := current.rows
    journal := entries }

/-! ## One sleeve -/

def sleeveDetail (view : SleeveView) (change : JournalChange) : JournalDetail where
  sleeveId := some view.sleeve.sleeveId
  strategyId := some view.sleeve.strategyId
  strategyName := some view.strategy.name
  reason := some .operator
  changes := [change]

def sleeveUpdateEntries (view : SleeveView) (weight : Decimal) (note : Option String)
    (revision : Nat) (context : MutationContext) : List JournalEntry :=
  let sleeve := view.sleeve
  let weightChange : JournalChange :=
    ⟨clipText view.strategy.name 64, some (percentText sleeve.weightFraction),
      some (percentText weight)⟩
  let noteChange : JournalChange := ⟨"note", sleeve.note, note⟩
  (if weight = sleeve.weightFraction then []
    else [journalEntry sleeve.portfolioId .weightsChanged context
      ("Changed weights: " ++ describeChanges [weightChange] ++ ".") revision
      (sleeveDetail view weightChange)]) ++
  (if note = sleeve.note then []
    else [journalEntry sleeve.portfolioId .sleeveUpdated context
      ("Updated the note on “" ++ view.strategy.name ++ "”.") revision
      (sleeveDetail view noteChange)])

/-- The note an update leaves: kept when not named, cleared when empty. -/
def updatedNote (sleeve : Sleeve) (request : SleeveUpdateRequest) : Option String :=
  match request.note with
  | none => sleeve.note
  | some note => noteOrNone (some note)

/-- A changed weight must fit beside the other sleeves; an unchanged one already does. -/
def requireReweighted (current : PortfolioAggregate) (sleeve : Sleeve) (weight : Decimal) :
    Outcome Unit :=
  if weight = sleeve.weightFraction then .ok ()
  else requireAllocation (current.rows.map (fun row =>
    if row.sleeveId = sleeve.sleeveId then weight else row.weightFraction))
    current.portfolio.cashReserveFraction

def planUpdateSleeve (current : PortfolioAggregate) (sleeveId : Uuid)
    (request : SleeveUpdateRequest) (context : MutationContext) :
    Outcome (Option MutationPlan) := do
  let portfolio := current.portfolio
  requireRevision portfolio request.revision
  let view ← current.sleeve sleeveId
  let sleeve := view.sleeve
  let weight := (request.weightFraction.map (·.val)).getD sleeve.weightFraction
  let note := updatedNote sleeve request
  if weight = sleeve.weightFraction ∧ note = sleeve.note then return none
  requireReweighted current sleeve weight
  let revision := portfolio.revision + 1
  let updated := { sleeve with
    weightFraction := weight, note := note, updatedAt := context.occurredAt }
  return some {
    portfolio := { portfolio with revision := revision, updatedAt := context.occurredAt }
    sleeves := current.rows.map (fun row => if row.sleeveId = sleeveId then updated else row)
    journal := sleeveUpdateEntries view weight note revision context }

/-- The revision guard of a removal; a strategy deletion removes without one. -/
def requireExpected (portfolio : Portfolio) : Option Nat → Outcome Unit
  | none => .ok ()
  | some expected => requireRevision portfolio expected

def planRemoveSleeve (current : PortfolioAggregate) (sleeveId : Uuid)
    (expectedRevision : Option Nat) (context : MutationContext) (strategyDeleted : Bool := false) :
    Outcome MutationPlan := do
  let portfolio := current.portfolio
  requireExpected portfolio expectedRevision
  let view ← current.sleeve sleeveId
  let revision := portfolio.revision + 1
  let weight := percentText view.sleeve.weightFraction
  let summary := "Removed sleeve “" ++ view.strategy.name ++ "” (" ++ weight ++ ")" ++
    (if strategyDeleted then " because its strategy was deleted." else ".")
  return {
    portfolio := { portfolio with revision := revision, updatedAt := context.occurredAt }
    sleeves := current.rows.filter (fun row => row.sleeveId ≠ sleeveId)
    journal := [journalEntry portfolio.portfolioId .sleeveRemoved context summary revision
      { sleeveId := some sleeveId
        strategyId := some view.sleeve.strategyId
        strategyName := some view.strategy.name
        reason := some (if strategyDeleted then .strategyDeleted else .operator)
        changes := [{ field := "weight", before := some weight, after := none }] }] }

/-! ## All weights -/

/-- `{item.sleeve_id: item.weight_fraction for item in weights}`. -/
def assignedWeights (weights : List WeightAssignment) : Dict Uuid Decimal :=
  weights.foldl (fun assigned item => assigned.set item.sleeveId item.weightFraction.val) Dict.empty

def namesEverySleeve (current : PortfolioAggregate) (weights : List WeightAssignment) : Bool :=
  (assignedWeights weights).entries.length = weights.length ∧
    ((assignedWeights weights).entries.map Prod.fst).toFinset =
      (current.rows.map (·.sleeveId)).toFinset

/-- `assigned[sleeve_id]`, read after the check that every sleeve is named. -/
def assignedWeight (weights : List WeightAssignment) (sleeveId : Uuid) : Decimal :=
  ((assignedWeights weights).get? sleeveId).getD 0

def planSetWeights (current : PortfolioAggregate) (request : SetWeightsRequest)
    (context : MutationContext) : Outcome (Option MutationPlan) := do
  let portfolio := current.portfolio
  requireRevision portfolio request.revision
  require (namesEverySleeve current request.weights = true)
    (.validation "portfolio_weights_incomplete"
      "Send exactly one weight for every sleeve in the portfolio (remove a sleeve to drop it).")
  let assigned := assignedWeight request.weights
  let reserve := (request.cashReserveFraction.map (·.val)).getD portfolio.cashReserveFraction
  requireAllocation (assignedWeights request.weights).values reserve
  let changes := current.sleeves.flatMap (fun view =>
      fieldChange (clipText view.strategy.name 64) percentText view.sleeve.weightFraction
        (assigned view.sleeve.sleeveId)) ++
    fieldChange "cash reserve" percentText portfolio.cashReserveFraction reserve
  if changes = [] then return none
  let revision := portfolio.revision + 1
  return some {
    portfolio := { portfolio with
      cashReserveFraction := reserve, revision := revision, updatedAt := context.occurredAt }
    sleeves := current.rows.map (fun row =>
      if assigned row.sleeveId = row.weightFraction then row
      else { row with
        weightFraction := assigned row.sleeveId, updatedAt := context.occurredAt })
    journal := [journalEntry portfolio.portfolioId .weightsChanged context
      ("Changed weights: " ++ describeChanges changes ++ ".") revision
      { reason := some .operator, changes := changes }] }

/-! ## What the rules keep -/

/-- The portfolio invariants over a row and its sleeves. -/
structure Sound (portfolio : Portfolio) (sleeves : List Sleeve) : Prop where
  allocated : (sleeves.map (·.weightFraction)).sum + portfolio.cashReserveFraction ≤ 1
  weights : ∀ sleeve ∈ sleeves, weightFraction sleeve.weightFraction = true
  reserve : reserveFraction portfolio.cashReserveFraction = true
  sleeveIds : (sleeves.map (·.sleeveId)).Nodup
  strategies : (sleeves.map (·.strategyId)).Nodup
  count : sleeves.length ≤ maxSleeves

/-- The next row of the same portfolio: mode and quote currency fixed, one revision on. -/
structure Advances (before after : Portfolio) : Prop where
  portfolioId : after.portfolioId = before.portfolioId
  mode : after.mode = before.mode
  quoteCurrency : after.quoteCurrency = before.quoteCurrency
  revision : after.revision = before.revision + 1

/-- A plan for a sound aggregate: the next row and sleeves, sound again, every sleeve one
of the old ids or of those minted for the plan. -/
structure Keeps (current : PortfolioAggregate) (minted : List Uuid) (plan : MutationPlan) :
    Prop where
  advances : Advances current.portfolio plan.portfolio
  sound : Sound plan.portfolio plan.sleeves
  known : ∀ sleeve ∈ plan.sleeves, sleeve.sleeveId ∈ current.rows.map (·.sleeveId) ++ minted

/-- Ids minted for new sleeves: distinct, and none of them in use. -/
structure FreshIds (sleeves : List Sleeve) (minted : List Uuid) : Prop where
  distinct : minted.Nodup
  unused : ∀ id ∈ minted, id ∉ sleeves.map (·.sleeveId)

theorem requireAllocation_eq_ok {weights : List Decimal} {reserve : Decimal} {u : Unit}
    (h : requireAllocation weights reserve = .ok u) : weights.sum + reserve ≤ 1 :=
  require_eq_ok h

variable {current : List Sleeve}

theorem requireNewStrategies_eq_ok {strategies : List SleeveStrategy} {u : Unit}
    (h : requireNewStrategies current strategies = .ok u) :
    ∀ strategy ∈ strategies, strategy.strategyId ∉ current.map (·.strategyId) := by
  unfold requireNewStrategies at h
  split at h
  · cases h
  next hnone =>
    intro strategy hstrategy hmem
    obtain ⟨sleeve, hsleeve, heq⟩ := mem_map.mp hmem
    have hfind := findSome?_eq_none_iff.mp hnone strategy hstrategy
    rw [Option.map_eq_none_iff, find?_eq_none] at hfind
    exact hfind sleeve hsleeve (by simpa using heq)

/-- The row keeps everything an edit of the sleeves leaves alone. -/
theorem advances_touch (portfolio : Portfolio) (at_ : Time) :
    Advances portfolio { portfolio with revision := portfolio.revision + 1, updatedAt := at_ } :=
  ⟨rfl, rfl, rfl, rfl⟩

section

variable (portfolio : Portfolio) (context : MutationContext)

def batchRows (strategies : List SleeveStrategy) (items : List SleeveBatchItem)
    (sleeveIds : List Uuid) : List Sleeve :=
  (strategies.zip (items.zip sleeveIds)).map (fun (strategy, item, sleeveId) =>
    newSleeve portfolio strategy item.weightFraction item.note sleeveId context)

variable {portfolio context} {strategies : List SleeveStrategy} {items : List SleeveBatchItem}
  {sleeveIds : List Uuid}

variable (hs : strategies.length = items.length) (hi : items.length = sleeveIds.length)
include hs hi

theorem length_batch : (items.zip sleeveIds).length = strategies.length := by
  rw [length_zip, hs, hi, Nat.min_self]

theorem batchRows_sleeveId :
    (batchRows portfolio context strategies items sleeveIds).map (·.sleeveId) = sleeveIds := by
  rw [batchRows, map_map]
  calc (strategies.zip (items.zip sleeveIds)).map _
      = ((strategies.zip (items.zip sleeveIds)).map Prod.snd).map Prod.snd := by
        rw [map_map]
        rfl
    _ = sleeveIds := by
        rw [map_snd_zip (length_batch hs hi).le, map_snd_zip hi.ge]

theorem batchRows_strategyId :
    (batchRows portfolio context strategies items sleeveIds).map (·.strategyId) =
      strategies.map (·.strategyId) := by
  rw [batchRows, map_map]
  calc (strategies.zip (items.zip sleeveIds)).map _
      = ((strategies.zip (items.zip sleeveIds)).map Prod.fst).map (·.strategyId) := by
        rw [map_map]
        rfl
    _ = strategies.map (·.strategyId) := by
        rw [map_fst_zip (length_batch hs hi).ge]

theorem batchRows_weightFraction :
    (batchRows portfolio context strategies items sleeveIds).map (·.weightFraction) =
      items.map (·.weightFraction.val) := by
  rw [batchRows, map_map]
  calc (strategies.zip (items.zip sleeveIds)).map _
      = (((strategies.zip (items.zip sleeveIds)).map Prod.snd).map Prod.fst).map
          (·.weightFraction.val) := by
        rw [map_map, map_map]
        rfl
    _ = items.map (·.weightFraction.val) := by
        rw [map_snd_zip (length_batch hs hi).le, map_fst_zip hi.le]

theorem batchRows_length :
    (batchRows portfolio context strategies items sleeveIds).length = items.length := by
  rw [batchRows, length_map, length_zip, length_zip]
  omega

end

theorem Sound.extend {portfolio : Portfolio} {current added : List Sleeve}
    (h : Sound portfolio current) (hfresh : FreshIds current (added.map (·.sleeveId)))
    (hweights : ∀ sleeve ∈ added, weightFraction sleeve.weightFraction = true)
    (hallocated : (current.map (·.weightFraction) ++ added.map (·.weightFraction)).sum +
      portfolio.cashReserveFraction ≤ 1)
    (hdistinct : (added.map (·.strategyId)).Nodup)
    (hnew : ∀ id ∈ added.map (·.strategyId), id ∉ current.map (·.strategyId))
    (hcount : current.length + added.length ≤ maxSleeves) : Sound portfolio (current ++ added) where
  allocated := by
    rw [map_append]
    exact hallocated
  weights := by
    intro sleeve hsleeve
    rcases mem_append.mp hsleeve with hold | hadded
    · exact h.weights sleeve hold
    · exact hweights sleeve hadded
  reserve := h.reserve
  sleeveIds := by
    rw [map_append]
    refine nodup_append.mpr ⟨h.sleeveIds, hfresh.distinct, ?_⟩
    rintro id hid other hother rfl
    exact hfresh.unused _ hother hid
  strategies := by
    rw [map_append]
    refine nodup_append.mpr ⟨h.strategies, hdistinct, ?_⟩
    rintro id hid other hother rfl
    exact hnew _ hother hid
  count := by
    rw [length_append]
    exact hcount

variable {sleeveIds : List Uuid} {context : MutationContext} {portfolio : Portfolio}
  {strategies : List SleeveStrategy}

/-- A batch keeps the supplied row and makes sound sleeves of sound ones. -/
theorem planSleeves_sound {items : List SleeveBatchItem}
    (h : planSleeves portfolio current strategies items sleeveIds context = .ok plan)
    (hcurrent : Sound portfolio current) (hfresh : FreshIds current sleeveIds)
    (hdistinct : (strategies.map (·.strategyId)).Nodup) :
    plan.portfolio = portfolio ∧ Sound portfolio plan.sleeves ∧
      plan.sleeves.map (·.sleeveId) = current.map (·.sleeveId) ++ sleeveIds := by
  obtain ⟨_, hnew, h⟩ := bind_eq_ok h
  obtain ⟨_, hcount, h⟩ := bind_eq_ok h
  obtain ⟨_, -, h⟩ := bind_eq_ok h
  obtain ⟨_, hallocation, h⟩ := bind_eq_ok h
  obtain ⟨_, hzip, rfl⟩ := bind_pure_ok h
  have hnew := requireNewStrategies_eq_ok hnew
  obtain ⟨hs, hi⟩ := require_eq_ok hzip
  refine ⟨rfl, ?_, by
    rw [map_append]
    exact congrArg _ (batchRows_sleeveId hs hi)⟩
  show Sound portfolio (current ++ batchRows portfolio context strategies items sleeveIds)
  refine hcurrent.extend ?_ ?_ ?_ ?_ ?_ ?_
  · rwa [batchRows_sleeveId hs hi]
  · intro sleeve hsleeve
    have hmem : sleeve.weightFraction ∈ items.map (·.weightFraction.val) := by
      rw [← batchRows_weightFraction hs hi]
      exact mem_map_of_mem hsleeve
    obtain ⟨item, -, hitem⟩ := mem_map.mp hmem
    rw [← hitem]
    exact item.weightFraction.property
  · rw [batchRows_weightFraction hs hi]
    exact requireAllocation_eq_ok hallocation
  · rwa [batchRows_strategyId hs hi]
  · rw [batchRows_strategyId hs hi]
    intro id hid
    obtain ⟨strategy, hstrategy, rfl⟩ := mem_map.mp hid
    have := hnew strategy hstrategy
    rwa [map_reverse, mem_reverse] at this
  · rw [batchRows_length hs hi]
    exact require_eq_ok hcount

theorem sound_empty (h : reserveFraction portfolio.cashReserveFraction = true) :
    Sound portfolio [] := by
  refine ⟨?_, by simp, h, by simp, by simp, by simp⟩
  simp only [reserveFraction, ranged, Bool.and_eq_true, if_true, Bool.false_eq_true, if_false,
    decide_eq_true_eq] at h
  simpa using h.2.le

theorem planCreate_sound {request : PortfolioCreateRequest} {portfolioId : Uuid}
    (h : planCreate request portfolioId context strategies sleeveIds = .ok plan)
    (hids : sleeveIds.Nodup) (hdistinct : (strategies.map (·.strategyId)).Nodup) :
    plan.portfolio = createdPortfolio request portfolioId context ∧
      Sound plan.portfolio plan.sleeves ∧ plan.sleeves.map (·.sleeveId) = sleeveIds := by
  obtain ⟨sleeves, hsleeves, rfl⟩ := bind_pure_ok h
  have hempty : Sound (createdPortfolio request portfolioId context) [] :=
    sound_empty request.cashReserveFraction.property
  obtain ⟨hportfolio, hsound, hknown⟩ :=
    planSleeves_sound hsleeves hempty ⟨hids, by simp⟩ hdistinct
  exact ⟨hportfolio, hportfolio ▸ hsound, hknown⟩

variable {other : Portfolio}

theorem Sound.row (h : Sound portfolio sleeves)
    (hreserve : other.cashReserveFraction = portfolio.cashReserveFraction) : Sound other sleeves :=
  ⟨hreserve ▸ h.allocated, h.weights, hreserve ▸ h.reserve, h.sleeveIds, h.strategies, h.count⟩

variable {current : PortfolioAggregate}

theorem planAddSleeves_keeps {request : SleevesAddRequest}
    (h : planAddSleeves current strategies request sleeveIds context = .ok plan)
    (hcurrent : Sound current.portfolio current.rows) (hfresh : FreshIds current.rows sleeveIds)
    (hdistinct : (strategies.map (·.strategyId)).Nodup) : Keeps current sleeveIds plan := by
  obtain ⟨_, -, h⟩ := bind_eq_ok h
  obtain ⟨hportfolio, hsound, hknown⟩ := planSleeves_sound h (hcurrent.row rfl) hfresh hdistinct
  rw [← hportfolio] at hsound
  refine ⟨hportfolio ▸ advances_touch current.portfolio context.occurredAt, hsound, ?_⟩
  intro sleeve hsleeve
  rw [← hknown]
  exact mem_map_of_mem hsleeve

theorem planAddSleeve_keeps {strategy : SleeveStrategy} {request : SleeveAddRequest}
    (h : planAddSleeve current strategy request sleeveId context = .ok plan)
    (hcurrent : Sound current.portfolio current.rows) (hfresh : FreshIds current.rows [sleeveId]) :
    Keeps current [sleeveId] plan := by
  obtain ⟨_, -, h⟩ := bind_eq_ok h
  obtain ⟨_, hnew, h⟩ := bind_eq_ok h
  obtain ⟨_, hcount, h⟩ := bind_eq_ok h
  obtain ⟨_, -, h⟩ := bind_eq_ok h
  obtain ⟨_, hallocation, rfl⟩ := bind_pure_ok h
  refine ⟨advances_touch current.portfolio context.occurredAt, ?_, by
    intro sleeve hsleeve
    have := mem_map_of_mem (f := (·.sleeveId)) hsleeve
    rwa [map_append] at this⟩
  have hadded : Sound current.portfolio (current.rows ++ [newSleeve current.portfolio strategy
      request.weightFraction request.note sleeveId context]) := by
    refine hcurrent.extend hfresh ?_ (requireAllocation_eq_ok hallocation) (by simp) ?_ ?_
    · intro sleeve hsleeve
      obtain rfl := mem_singleton.mp hsleeve
      exact request.weightFraction.property
    · intro id hid
      obtain rfl := mem_singleton.mp hid
      exact requireNewStrategies_eq_ok hnew strategy (by simp)
    · have hcount := require_eq_ok hcount
      simp only [PortfolioAggregate.rows, length_map, length_singleton]
      omega
  exact hadded.row rfl

/-! ## Edits of what is there -/

theorem planUpdate_keeps {request : PortfolioUpdateRequest}
    (h : planUpdate current request context = .ok (some plan))
    (hcurrent : Sound current.portfolio current.rows) : Keeps current [] plan := by
  obtain ⟨_, -, h⟩ := bind_eq_ok h
  obtain ⟨-, h⟩ := of_ite_ne h nofun
  obtain ⟨_, hallocation, h⟩ := bind_eq_ok h
  cases h
  refine ⟨⟨rfl, rfl, rfl, rfl⟩, ?_, by
    intro sleeve hsleeve
    simpa using mem_map_of_mem (f := (·.sleeveId)) hsleeve⟩
  refine ⟨requireAllocation_eq_ok hallocation, hcurrent.weights, ?_, hcurrent.sleeveIds,
    hcurrent.strategies, hcurrent.count⟩
  cases request.cashReserveFraction with
  | none => exact hcurrent.reserve
  | some reserve => exact reserve.property

/-- Rewriting rows without touching their ids or strategies. -/
theorem Sound.mapRows {portfolio other : Portfolio} (h : Sound portfolio sleeves)
    (f : Sleeve → Sleeve) (hid : ∀ sleeve ∈ sleeves, (f sleeve).sleeveId = sleeve.sleeveId)
    (hstrategy : ∀ sleeve ∈ sleeves, (f sleeve).strategyId = sleeve.strategyId)
    (hweight : ∀ sleeve ∈ sleeves, weightFraction (f sleeve).weightFraction = true)
    (hreserve : reserveFraction other.cashReserveFraction = true)
    (hallocated : (sleeves.map (fun sleeve => (f sleeve).weightFraction)).sum +
      other.cashReserveFraction ≤ 1) : Sound other (sleeves.map f) where
  allocated := by
    rw [map_map]
    exact hallocated
  weights := by
    intro sleeve hsleeve
    obtain ⟨old, hold, rfl⟩ := mem_map.mp hsleeve
    exact hweight old hold
  reserve := hreserve
  sleeveIds := by
    rw [map_map, map_congr_left (f := (·.sleeveId) ∘ f) (g := (·.sleeveId)) hid]
    exact h.sleeveIds
  strategies := by
    rw [map_map, map_congr_left (f := (·.strategyId) ∘ f) (g := (·.strategyId)) hstrategy]
    exact h.strategies
  count := by
    rw [length_map]
    exact h.count

theorem known_mapRows {f : Sleeve → Sleeve}
    (hid : ∀ row ∈ current.rows, (f row).sleeveId = row.sleeveId) :
    ∀ sleeve ∈ current.rows.map f, sleeve.sleeveId ∈ current.rows.map (·.sleeveId) ++ [] := by
  intro sleeve hsleeve
  obtain ⟨row, hrow, rfl⟩ := mem_map.mp hsleeve
  rw [hid row hrow, append_nil]
  exact mem_map_of_mem hrow

theorem sleeve_eq_ok {view : SleeveView} (h : current.sleeve sleeveId = .ok view) :
    view.sleeve ∈ current.rows ∧ view.sleeve.sleeveId = sleeveId := by
  unfold PortfolioAggregate.sleeve at h
  split at h
  next found hfind =>
    cases h
    refine ⟨mem_map_of_mem (mem_of_find?_eq_some hfind), ?_⟩
    simpa using find?_some hfind
  · cases h

theorem Sound.row_eq (h : Sound portfolio sleeves) {a b : Sleeve} (ha : a ∈ sleeves)
    (hb : b ∈ sleeves) (hid : a.sleeveId = b.sleeveId) : a = b :=
  inj_on_of_nodup_map h.sleeveIds ha hb hid

theorem planUpdateSleeve_keeps {request : SleeveUpdateRequest}
    (h : planUpdateSleeve current sleeveId request context = .ok (some plan))
    (hcurrent : Sound current.portfolio current.rows) : Keeps current [] plan := by
  obtain ⟨_, -, h⟩ := bind_eq_ok h
  obtain ⟨view, hview, h⟩ := bind_eq_ok h
  obtain ⟨hmem, hid⟩ := sleeve_eq_ok hview
  have hsame : ∀ row ∈ current.rows, row.sleeveId = sleeveId → row = view.sleeve := fun row hrow he =>
    hcurrent.row_eq hrow hmem (he.trans hid.symm)
  obtain ⟨-, h⟩ := of_ite_ne h nofun
  obtain ⟨_, hcheck, h⟩ := bind_eq_ok h
  cases h
  have hids : ∀ row ∈ current.rows, (if row.sleeveId = sleeveId then
      { view.sleeve with
        weightFraction := (request.weightFraction.map (·.val)).getD view.sleeve.weightFraction
        note := updatedNote view.sleeve request
        updatedAt := context.occurredAt } else row).sleeveId = row.sleeveId := by
    intro row hrow
    split
    next he => rw [hsame row hrow he]
    · rfl
  refine ⟨advances_touch current.portfolio context.occurredAt, ?_, known_mapRows hids⟩
  refine hcurrent.mapRows _ hids ?_ ?_ hcurrent.reserve ?_
  · intro row hrow
    split
    next he => rw [hsame row hrow he]
    · rfl
  · intro row hrow
    split
    next he =>
      show weightFraction ((request.weightFraction.map (·.val)).getD _) = true
      cases request.weightFraction with
      | none => exact hcurrent.weights _ hmem
      | some weight => exact weight.property
    · exact hcurrent.weights row hrow
  · -- an unchanged weight was allocated before; a changed one was just checked
    unfold requireReweighted at hcheck
    split at hcheck
    next hunchanged =>
      refine le_of_eq_of_le ?_ hcurrent.allocated
      congr 2
      refine map_congr_left fun row hrow => ?_
      split
      next he =>
        rw [hsame row hrow he]
        exact hunchanged
      · rfl
    next hchanged =>
      refine le_of_eq_of_le ?_ (requireAllocation_eq_ok hcheck)
      rw [hid]
      congr 2
      refine map_congr_left fun row _ => ?_
      split
      · rfl
      · rfl

theorem planRemoveSleeve_keeps {expectedRevision : Option Nat} {strategyDeleted : Bool}
    (h : planRemoveSleeve current sleeveId expectedRevision context strategyDeleted = .ok plan)
    (hcurrent : Sound current.portfolio current.rows) : Keeps current [] plan := by
  obtain ⟨_, -, h⟩ := bind_eq_ok h
  obtain ⟨view, -, rfl⟩ := bind_pure_ok h
  have hsub : (current.rows.filter (fun row => row.sleeveId ≠ sleeveId)).Sublist current.rows :=
    filter_sublist
  refine ⟨advances_touch current.portfolio context.occurredAt, ?_, by
    intro sleeve hsleeve
    simpa using mem_map_of_mem (f := (·.sleeveId)) (hsub.subset hsleeve)⟩
  refine ⟨?_, fun row hrow => hcurrent.weights row (hsub.subset hrow), hcurrent.reserve,
    hcurrent.sleeveIds.sublist (hsub.map _), hcurrent.strategies.sublist (hsub.map _),
    hsub.length_le.trans hcurrent.count⟩
  have hsum : ((current.rows.filter (fun row => row.sleeveId ≠ sleeveId)).map
      (·.weightFraction)).sum ≤ (current.rows.map (·.weightFraction)).sum := by
    refine (hsub.map (·.weightFraction)).sum_le_sum fun weight hweight => ?_
    obtain ⟨row, hrow, rfl⟩ := mem_map.mp hweight
    exact (weightFraction_pos (hcurrent.weights row hrow)).le
  exact (add_le_add_left hsum _).trans hcurrent.allocated

/-! ## Replacing every weight -/

section

variable {current : PortfolioAggregate} {weights : List WeightAssignment}

variable (h : namesEverySleeve current weights = true)
include h

/-- Weights that name every sleeve once: the dict holds exactly the assignments. -/
theorem assignedWeights_entries :
    (weights.map (·.sleeveId)).Nodup ∧
      (assignedWeights weights).entries =
        weights.map (fun item => (item.sleeveId, item.weightFraction.val)) := by
  simp only [namesEverySleeve, decide_eq_true_eq] at h
  have hlength : (Dict.empty : Dict Uuid Decimal).entries.length + weights.length ≤
      (assignedWeights weights).entries.length := by
    rw [h.1]
    simp [Dict.empty]
  obtain ⟨hnodup, habsent⟩ := Dict.nodup_of_length_foldl_set (fun item : WeightAssignment => item.sleeveId)
    (fun item => item.weightFraction.val) hlength
  exact ⟨hnodup, (Dict.entries_foldl_set _ _ hnodup habsent).trans (nil_append _)⟩

/-- The named sleeves are the portfolio's, each once. -/
theorem names_perm (hids : (current.rows.map (·.sleeveId)).Nodup) :
    (weights.map (·.sleeveId)).Perm (current.rows.map (·.sleeveId)) := by
  obtain ⟨hnodup, hentries⟩ := assignedWeights_entries h
  refine perm_of_nodup_nodup_toFinset_eq hnodup hids ?_
  simp only [namesEverySleeve, decide_eq_true_eq] at h
  rw [← h.2, hentries, map_map]
  rfl

theorem assignedWeight_of_mem {item : WeightAssignment} (hitem : item ∈ weights) :
    assignedWeight weights item.sleeveId = item.weightFraction.val := by
  have hget : (assignedWeights weights).get? item.sleeveId = some item.weightFraction.val := by
    rw [Dict.get?_eq_some_iff, (assignedWeights_entries h).2]
    exact mem_map_of_mem hitem
  rw [assignedWeight, hget, Option.getD_some]

/-- What a function of ids sums to does not depend on whose list of ids it is. -/
theorem sum_assigned (hids : (current.rows.map (·.sleeveId)).Nodup) (f : Uuid → Decimal) :
    (weights.map (fun item => f item.sleeveId)).sum =
      (current.rows.map (fun row => f row.sleeveId)).sum := by
  have hperm := ((names_perm h hids).map f).sum_eq
  rwa [map_map, map_map] at hperm

/-- The values of the dict add up to the weights the sleeves are given. -/
theorem sum_assignedWeights (hids : (current.rows.map (·.sleeveId)).Nodup) :
    (assignedWeights weights).values.sum =
      (current.rows.map (fun row => assignedWeight weights row.sleeveId)).sum := by
  rw [← sum_assigned h hids, Dict.values, (assignedWeights_entries h).2, map_map]
  congr 1
  exact map_congr_left fun item hitem => (assignedWeight_of_mem h hitem).symm

theorem assignedWeight_legal {row : Sleeve} (hrow : row ∈ current.rows) :
    weightFraction (assignedWeight weights row.sleeveId) = true := by
  have hnames := h
  simp only [namesEverySleeve, decide_eq_true_eq] at hnames
  have hmem : row.sleeveId ∈ (assignedWeights weights).entries.map Prod.fst := by
    rw [← mem_toFinset, hnames.2, mem_toFinset]
    exact mem_map_of_mem hrow
  rw [(assignedWeights_entries h).2, map_map] at hmem
  obtain ⟨item, hitem, hid⟩ := mem_map.mp hmem
  have hid : item.sleeveId = row.sleeveId := hid
  rw [← hid, assignedWeight_of_mem h hitem]
  exact item.weightFraction.property

end

theorem planSetWeights_keeps {current : PortfolioAggregate} {request : SetWeightsRequest}
    (h : planSetWeights current request context = .ok (some plan))
    (hcurrent : Sound current.portfolio current.rows) : Keeps current [] plan := by
  obtain ⟨_, -, h⟩ := bind_eq_ok h
  obtain ⟨_, hnames, h⟩ := bind_eq_ok h
  obtain ⟨_, hallocation, h⟩ := bind_eq_ok h
  obtain ⟨-, h⟩ := of_ite_ne h nofun
  cases h
  have hnames := require_eq_ok hnames
  have hweight : ∀ row ∈ current.rows,
      (if assignedWeight request.weights row.sleeveId = row.weightFraction then row
        else { row with
          weightFraction := assignedWeight request.weights row.sleeveId
          updatedAt := context.occurredAt }).weightFraction =
        assignedWeight request.weights row.sleeveId := by
    intro row _
    split
    next he => exact he.symm
    · rfl
  have hids : ∀ row ∈ current.rows,
      (if assignedWeight request.weights row.sleeveId = row.weightFraction then row
        else { row with
          weightFraction := assignedWeight request.weights row.sleeveId
          updatedAt := context.occurredAt }).sleeveId = row.sleeveId := by
    intro row _
    split
    · rfl
    · rfl
  refine ⟨⟨rfl, rfl, rfl, rfl⟩, ?_, known_mapRows hids⟩
  refine hcurrent.mapRows _ hids ?_ ?_ ?_ ?_
  · intro row _
    split
    · rfl
    · rfl
  · intro row hrow
    rw [hweight row hrow]
    exact assignedWeight_legal hnames hrow
  · show reserveFraction ((request.cashReserveFraction.map (·.val)).getD _) = true
    cases request.cashReserveFraction with
    | none => exact hcurrent.reserve
    | some reserve => exact reserve.property
  · rw [map_congr_left hweight, ← sum_assignedWeights hnames hcurrent.sleeveIds]
    exact requireAllocation_eq_ok hallocation

end Thytrader.Portfolios
