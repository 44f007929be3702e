import Thytrader.Evaluation.NoLookahead
import Thytrader.Evaluation.RowWarmup

/-!
# Warmup of a validated document

The warmup checks of `strategies/schema/document_validation.py` and `entry.py`, and what
they give a research run: the first evaluation bar and the bar before it read a value
from every operand, whichever clock its indicator runs on.
-/

namespace Thytrader.Evaluation

open Lib MarketData Strategies List

variable {operand : IndicatorOperand} {added : List String} {timeframe : CandleInterval}
  {indicators : List IndicatorDefinition} {held' : Held}

/-! ## Validation -/

def OperandsResolve (operands : List IndicatorOperand) (indicators : List IndicatorDefinition) :
    Prop :=
  ∀ operand ∈ operands, ∃ indicator ∈ indicators,
    operand.indicator = indicator.id ∧ requireOperandSeries operand indicator

/-- The checks on a filter: `HigherTimeframeFilter.validate_htf_semantics` and
`_validate_htf_filter`. -/
structure ValidatedFilter (updates : Decimal → Nat) (strategy : StrategyDefinition)
    (filter : HigherTimeframeFilter) : Prop where
  identifiers : ∀ indicator ∈ filter.indicators, validIdentifier indicator.id
  distinct : (filter.indicators.map (·.id)).Nodup
  apart : ∀ indicator ∈ filter.indicators, indicator.id ∉ strategy.indicators.map (·.id)
  resolved : OperandsResolve (conditionIndicatorOperands filter.condition) filter.indicators
  warmup : extraIndicatorTimeframeWarmup updates filter.indicators
    (conditionIndicatorOperands filter.condition) filter.dataRequirements.convergenceWarmup ≤
      filter.dataRequirements.warmupBars.value

/-- `_validate_decision_indicators`, `_validate_signal_exit`, `_validate_reference_instruments` and
the filter's own checks. -/
structure ValidatedDocument (updates : Decimal → Nat) (strategy : StrategyDefinition) : Prop where
  identifiers : ∀ indicator ∈ strategy.indicators, validIdentifier indicator.id
  distinct : (strategy.indicators.map (·.id)).Nodup
  entryResolved :
    OperandsResolve (conditionIndicatorOperands strategy.entry.condition) strategy.indicators
  exitResolved : ∀ condition ∈ strategy.exits.signalExit,
    OperandsResolve (conditionIndicatorOperands condition) strategy.indicators
  sources : ∀ indicator ∈ strategy.indicators, ∀ source ∈ indicator.source,
    indicator.timeframe = none ∧ source ∈ (referenceInstruments strategy).map (·.id)
  warmup : extraIndicatorTimeframeWarmup updates (decisionClockIndicators strategy)
    (strategyIndicatorOperands strategy) strategy.dataRequirements.convergenceWarmup ≤
      strategy.dataRequirements.warmupBars.value
  filter : ∀ filter ∈ strategy.htfFilter, ValidatedFilter updates strategy filter

def decisionOperands (strategy : StrategyDefinition) : List IndicatorOperand :=
  conditionIndicatorOperands strategy.entry.condition ++
    strategy.exits.signalExit.elim [] conditionIndicatorOperands

theorem mem_distinct {α : Type} [DecidableEq α] {items : List α} {item : α} :
    item ∈ distinct items ↔ item ∈ items := by
  have hfold (seen : List α) :
      item ∈ items.foldl (fun seen item => if item ∈ seen then seen else seen ++ [item]) seen ↔
        item ∈ seen ∨ item ∈ items := by
    induction items generalizing seen with
    | nil => simp
    | cons first _ ih =>
      rw [foldl_cons, ih]
      by_cases hfirst : first ∈ seen
      · rw [if_pos hfirst, mem_cons]
        constructor
        · rintro (h | h)
          · exact .inl h
          · exact .inr (.inr h)
        · rintro (h | rfl | h)
          · exact .inl h
          · exact .inl hfirst
          · exact .inr h
      · rw [if_neg hfirst, mem_append, mem_singleton, mem_cons, or_assoc]
  exact (hfold []).trans (by simp)

theorem mem_strategyIndicatorOperands {strategy : StrategyDefinition} :
    operand ∈ strategyIndicatorOperands strategy ↔ operand ∈ decisionOperands strategy ∨
      ∃ filter ∈ strategy.htfFilter, operand ∈ conditionIndicatorOperands filter.condition := by
  rw [strategyIndicatorOperands, mem_distinct, mem_flatMap, decisionOperands, mem_append]
  constructor
  · rintro ⟨condition, hcondition, hoperand⟩
    rw [mem_cons, mem_append, Option.mem_toList, Option.mem_toList] at hcondition
    rcases hcondition with rfl | hexit | hfilter
    · exact .inl (.inl hoperand)
    · exact .inl (.inr (by rw [Option.mem_def.mp hexit]; exact hoperand))
    · obtain ⟨filter, hpresent, rfl⟩ := Option.map_eq_some_iff.mp hfilter
      exact .inr ⟨filter, hpresent, hoperand⟩
  · rintro ((hentry | hexit) | ⟨filter, hfilter, hoperand⟩)
    · exact ⟨_, by simp, hentry⟩
    · cases hsignal : strategy.exits.signalExit with
      | none => rw [hsignal] at hexit; cases hexit
      | some condition =>
        rw [hsignal] at hexit
        exact ⟨condition, by simp, hexit⟩
    · exact ⟨filter.condition, by simp [Option.mem_def.mp hfilter], hoperand⟩

section

variable {updates : Decimal → Nat} {strategy : StrategyDefinition}

variable (h : ValidatedDocument updates strategy)
include h

theorem ValidatedDocument.decisionResolved :
    OperandsResolve (decisionOperands strategy) strategy.indicators := by
  intro operand hoperand
  rcases mem_append.mp hoperand with hentry | hexit
  · exact h.entryResolved operand hentry
  · cases hsignal : strategy.exits.signalExit with
    | none => rw [hsignal] at hexit; cases hexit
    | some condition =>
      rw [hsignal] at hexit
      exact h.exitResolved condition hsignal operand hexit

variable {indicator : IndicatorDefinition}

/-- An operand of the strategy that names an indicator of the decision list fits it. -/
theorem ValidatedDocument.series (hoperand : operand ∈ strategyIndicatorOperands strategy)
    (hindicator : indicator ∈ strategy.indicators) (hid : operand.indicator = indicator.id) :
    requireOperandSeries operand indicator := by
  rcases mem_strategyIndicatorOperands.mp hoperand with hdecision | ⟨filter, hfilter, hfiltered⟩
  · obtain ⟨named, hnamed, hname, hseries⟩ := h.decisionResolved operand hdecision
    obtain rfl := inj_on_of_nodup_map h.distinct hnamed hindicator (hname.symm.trans hid)
    exact hseries
  · -- a filter operand names a filter indicator, and those have other ids
    obtain ⟨named, hnamed, hname, -⟩ := (h.filter filter hfilter).resolved operand hfiltered
    refine absurd ?_ ((h.filter filter hfilter).apart named hnamed)
    rw [← hname, hid]
    exact mem_map_of_mem hindicator

theorem ValidatedDocument.filterOperand {filter : HigherTimeframeFilter}
    (hfilter : filter ∈ strategy.htfFilter)
    (hoperand : operand ∈ strategyIndicatorOperands strategy)
    (hindicator : indicator ∈ filter.indicators) (hid : operand.indicator = indicator.id) :
    operand ∈ conditionIndicatorOperands filter.condition := by
  rcases mem_strategyIndicatorOperands.mp hoperand with hdecision | ⟨other, hother, hfiltered⟩
  · obtain ⟨named, hnamed, hname, -⟩ := h.decisionResolved operand hdecision
    refine absurd ?_ ((h.filter filter hfilter).apart indicator hindicator)
    rw [← hid, hname]
    exact mem_map_of_mem hnamed
  · obtain rfl : other = filter := Option.some.inj (hother.symm.trans hfilter)
    exact hfiltered

end

/-! ## Ready rows -/

structure RowReady (known : List String) (operands : List IndicatorOperand) (row : Row) : Prop where
  defined : ∀ operand ∈ operands, operand.indicator ∈ known →
    (Row.value row (operandValueKey operand)).isSome
  owned : ∀ key, (row.get? key).isSome → ∃ id ∈ known, keyOwner key = id.toList

variable {row : Row} {selected : List Candle} {warmupBars : Nat} {rows : Dict Time Row}
  {operands : List IndicatorOperand}

/-- A held row adds the operands of its clock and leaves the others. -/
theorem RowReady.update {known : List String} {other : Row} (hrow : RowReady known operands row)
    (hother : RowReady added operands other)
    (hids : ∀ operand ∈ operands, validIdentifier operand.indicator) :
    RowReady (known ++ added) operands (row.update other) := by
  constructor
  · intro operand hoperand hknown
    rw [Row.value, Dict.get?_update]
    by_cases hadded : operand.indicator ∈ added
    · have hvalue := hother.defined operand hoperand hadded
      unfold Row.value at hvalue
      cases hentry : other.get? (operandValueKey operand) with
      | none => rw [hentry] at hvalue; cases hvalue
      | some => rw [hentry] at hvalue; exact hvalue
    · -- the other row has no key of this operand's indicator
      have hnone : other.get? (operandValueKey operand) = none := by
        by_contra hpresent
        obtain ⟨id, hid, howner⟩ := hother.owned _ (Option.isSome_iff_ne_none.mpr hpresent)
        rw [keyOwner_operand (hids operand hoperand)] at howner
        exact hadded (String.toList_inj.mp howner ▸ hid)
      rw [hnone, Option.none_or]
      exact hrow.defined operand hoperand ((mem_append.mp hknown).resolve_right hadded)
  · intro key hkey
    rw [Dict.get?_update] at hkey
    cases hentry : other.get? key with
    | some =>
      obtain ⟨id, hid, howner⟩ := hother.owned key (by rw [hentry]; rfl)
      exact ⟨id, mem_append_right known hid, howner⟩
    | none =>
      rw [hentry, Option.none_or] at hkey
      obtain ⟨id, hid, howner⟩ := hrow.owned key hkey
      exact ⟨id, mem_append_left added hid, howner⟩

/-! ## Positive prices of accepted candles -/

theorem positive_of_contract {candle : Candle} (h : requireOhlcvContract candle = .ok ()) :
    0 < candle.open_ ∧ 0 < candle.high ∧ 0 < candle.low ∧ 0 < candle.close := by
  obtain ⟨hvalid, h⟩ := of_ite_ne h nofun
  simp only [invalidOhlcGeometry, decide_eq_true_eq, not_or, not_le] at hvalid
  exact ⟨hvalid.1, hvalid.2.1, hvalid.2.2.1, hvalid.2.2.2.1⟩

variable {candles : List Candle}

theorem positive_of_contiguous {startsAt : Time} {bar : Duration} {index : Nat}
    (h : requireContiguous startsAt bar index candles = .ok ()) :
    PositivePrices candles := by
  induction candles generalizing index with
  | nil => intro candle hcandle; cases hcandle
  | cons _ _ ih =>
    obtain ⟨-, h⟩ := of_ite_ne h nofun
    obtain ⟨_, hcontract, hrest⟩ := bind_eq_ok h
    intro candle hcandle
    rcases mem_cons.mp hcandle with rfl | hcandle
    · exact positive_of_contract hcontract
    · exact ih hrest candle hcandle

theorem requiredCandles_positive {specification : ResearchRunSpecification}
    (h : requiredCandles specification candles = .ok selected) :
    PositivePrices selected := by
  obtain ⟨interval, -, h⟩ := bind_eq_ok h
  obtain ⟨-, h⟩ := of_ite_ne h nofun
  obtain ⟨_, hcontiguous, rfl⟩ := bind_pure_ok h
  exact positive_of_contiguous hcontiguous

theorem requiredHtfCandles_positive {starts : List Time}
    (h : requiredHtfCandles starts candles = .ok selected) : PositivePrices selected := by
  obtain ⟨byStart, hindexed, hselected⟩ := bind_eq_ok h
  clear h hindexed
  induction starts generalizing selected with
  | nil =>
    cases hselected
    intro candle hcandle
    cases hcandle
  | cons start _ ih =>
    rw [mapM_cons] at hselected
    obtain ⟨first, hfirst, hrest⟩ := bind_eq_ok hselected
    obtain ⟨others, hothers, rfl⟩ := bind_pure_ok hrest
    intro candle hcandle
    rcases mem_cons.mp hcandle with rfl | hcandle
    · unfold expectedCandle at hfirst
      cases hfound : byStart.get? start with
      | none => rw [hfound] at hfirst; cases hfirst
      | some =>
        rw [hfound] at hfirst
        obtain ⟨_, hcontract, rfl⟩ := bind_pure_ok hfirst
        exact positive_of_contract hcontract
    · exact ih hothers candle hcandle

/-! ## Rows of a slower clock -/

theorem rowsByStart_get? {rows : List Row} {start : Time}
    (h : (rowsByStart selected rows).get? start = some row) :
    ∃ (bar : Nat) (candle : Candle), selected[bar]? = some candle ∧ candle.startsAt = start ∧ rows[bar]? = some row := by
  have hfold (bars : List (Candle × Row)) (stored : Dict Time Row)
      (hget : (bars.foldl (fun byStart bar => byStart.set bar.1.startsAt bar.2) stored).get? start =
        some row) :
      stored.get? start = some row ∨ ∃ bar ∈ bars, bar.1.startsAt = start ∧ bar.2 = row := by
    induction bars generalizing stored with
    | nil => exact .inl hget
    | cons first _ ih =>
      rcases ih _ hget with hstored | ⟨bar, hbar, hrow⟩
      · rw [Dict.get?_set] at hstored
        split at hstored
        next hstart => exact .inr ⟨first, by simp, hstart.symm, Option.some.inj hstored⟩
        · exact .inl hstored
      · exact .inr ⟨bar, by simp [hbar], hrow⟩
  rcases hfold _ _ h with hempty | ⟨bar, hbar, hstart, rfl⟩
  · cases hempty
  · obtain ⟨index, hindex⟩ := mem_iff_getElem?.mp hbar
    have hpair := getElem?_zip_eq_some.mp hindex
    exact ⟨index, bar.1, hpair.1, hstart, hpair.2⟩

theorem closedBarStarts_warm {startsAt endsAt closeAt : Time} {bar : Nat}
    (hclose : startsAt ≤ closeAt)
    (hbar : (closedBarStarts startsAt endsAt timeframe warmupBars)[bar]? = some (mappedHtfStart
      closeAt timeframe)) : warmupBars ≤ bar + 1 := by
  simp only [closedBarStarts, closedBarRequiredCoverage, getElem?_map,
    Option.map_eq_some_iff] at hbar
  obtain ⟨index, hindex, hstart⟩ := hbar
  obtain rfl : bar = index := by
    have hrange := (List.getElem?_eq_some_iff.mp hindex).2
    rwa [getElem_range] at hrange
  have hmono := timeframe.alignClosedEnd_mono hclose
  have hpos := timeframe.duration_pos
  unfold mappedHtfStart lastCompletedBarStart at hstart
  -- the offset of the mapped bar from the coverage start is a whole number of bars
  have hbars : timeframe.duration * ((warmupBars : Int) - 1) ≤ timeframe.duration * (bar : Int) := by
    linarith
  have hle : (warmupBars : Int) - 1 ≤ (bar : Int) := le_of_mul_le_mul_left hbars hpos
  omega

section

variable {engine : Engine} {strategy : StrategyDefinition} {window : EvaluationWindow}
  {candles : List Candle}

section

variable (hnodup : (indicators.map (·.id)).Nodup)
  (hids : ∀ indicator ∈ indicators, validIdentifier indicator.id)
include hnodup hids

theorem rowReady_of_warm {math : DecimalMath} {bar : Nat}
    (hseries : ∀ operand ∈ operands, ∀ indicator ∈ indicators, operand.indicator = indicator.id →
      requireOperandSeries operand indicator) (hpositive : PositivePrices candles)
    (hregular : NonDegenerate math indicators candles)
    (hwarm : ∀ operand ∈ operands, ∀ indicator ∈ indicators, operand.indicator = indicator.id →
      indicatorMinWarmup indicator + operand.offset.elim 0 (·.value) ≤ bar + 1)
    (hrow : (calculateIndicatorRows math indicators operands candles)[bar]? = some row) :
    RowReady (indicators.map (·.id)) operands row := by
  have hbar : bar < candles.length := by
    have h := (List.getElem?_eq_some_iff.mp hrow).1
    rwa [(causal_calculateIndicatorRows math indicators operands).length_eq] at h
  have hentry (key : String) :
      entryAt (calculateIndicatorRows math indicators operands candles) bar key = row.get? key := by
    rw [entryAt, hrow, Option.bind_some]
  constructor
  · intro operand hoperand hknown
    have hread := calculateIndicatorRows_read math hnodup hids hseries hpositive hregular hbar hwarm
      hoperand hknown
    rwa [readRow, hentry] at hread
  · intro key hkey
    obtain ⟨indicator, hindicator, howner⟩ := calculateIndicatorRows_owner math hids operands hbar
      key (by rwa [hentry])
    exact ⟨indicator.id, mem_map_of_mem hindicator, howner⟩

/-- Every row held from a slower clock at or after an instant is ready. -/
def ClockReady (known : List String) (operands : List IndicatorOperand) (startsAt : Time)
    (timeframe : CandleInterval) (rows : Dict Time Row) : Prop :=
  ∀ closeAt, startsAt ≤ closeAt → ∀ row, rows.get? (mappedHtfStart closeAt timeframe) = some row →
    RowReady known operands row

theorem clockReady_of_clockRows
    (hseries : ∀ operand ∈ strategyIndicatorOperands strategy, ∀ indicator ∈ indicators,
      operand.indicator = indicator.id → requireOperandSeries operand indicator)
    (hwarm : ∀ operand ∈ strategyIndicatorOperands strategy, ∀ indicator ∈ indicators,
      operand.indicator = indicator.id → indicatorMinWarmup indicator + operand.offset.elim 0
      (·.value) ≤ warmupBars)
    (hregular : ∀ selected, requiredHtfCandles (closedBarStarts window.startsAt window.endsAt
      timeframe warmupBars) candles = .ok selected → NonDegenerate engine.math indicators selected)
    (h : clockRows engine strategy indicators (closedBarStarts window.startsAt window.endsAt
      timeframe warmupBars) candles = .ok rows) :
    ClockReady (indicators.map (·.id)) (strategyIndicatorOperands strategy) window.startsAt timeframe
      rows := by
  obtain ⟨selected, hselected, rfl⟩ := bind_pure_ok h
  intro closeAt hclose row hrow
  obtain ⟨bar, candle, hcandle, hstart, hrow⟩ := rowsByStart_get? hrow
  have hstarts := (requiredHtfCandles_spec hselected).1
  have hmapped : (closedBarStarts window.startsAt window.endsAt timeframe warmupBars)[bar]? =
      some (mappedHtfStart closeAt timeframe) := by
    rw [← hstarts, getElem?_map, hcandle, Option.map_some, hstart]
  have hover := closedBarStarts_warm hclose hmapped
  refine rowReady_of_warm hnodup hids hseries (requiredHtfCandles_positive hselected)
    (hregular selected hselected) ?_ hrow
  intro operand hoperand indicator hindicator hid
  exact (hwarm operand hoperand indicator hindicator hid).trans hover

end

end

/-! ## Holding slower rows -/

section

variable {operands : List IndicatorOperand} {startsAt closeAt : Time} {known : List String}

/-- Both rows a decision bar reads are ready, and the earlier one closes late enough. -/
structure HeldReady (known : List String) (operands : List IndicatorOperand) (startsAt : Time)
    (held : Held) : Prop where
  current : RowReady known operands held.current
  previous : ∃ before, held.previous = some before ∧ startsAt ≤ before.1 ∧
    RowReady known operands before.2

variable {missed : String}

theorem heldRow_get? (h : heldRow rows closeAt timeframe missed = .ok row) :
    rows.get? (mappedHtfStart closeAt timeframe) = some row := by
  unfold heldRow at h
  split at h
  · cases h
  next found hfound => rw [hfound, Except.ok.inj h]

theorem heldRow_ready (hclock : ClockReady added operands startsAt timeframe rows)
    (hclose : startsAt ≤ closeAt) (h : heldRow rows closeAt timeframe missed = .ok row) :
    RowReady added operands row :=
  hclock closeAt hclose row (heldRow_get? h)

variable {held : Held} (h : HeldReady known operands startsAt held)
  (hids : ∀ operand ∈ operands, validIdentifier operand.indicator)
include h hids

theorem HeldReady.holdClock (hclock : ClockReady added operands startsAt timeframe rows)
    (hclose : startsAt ≤ closeAt) {missedLast missedPrevious : String}
    (hheld : holdClock rows timeframe closeAt missedLast missedPrevious held = .ok held') :
    HeldReady (known ++ added) operands startsAt held' := by
  obtain ⟨before, hbefore, hstart, hready⟩ := h.previous
  obtain ⟨mapped, hmapped, hheld⟩ := bind_eq_ok hheld
  simp only [hbefore] at hheld
  obtain ⟨mappedPrevious, hmappedPrevious, rfl⟩ := bind_pure_ok hheld
  exact ⟨h.current.update (heldRow_ready hclock hclose hmapped) hids, _, rfl, hstart,
    hready.update (heldRow_ready hclock hstart hmappedPrevious) hids⟩

theorem HeldReady.overlayExtraRows {groups : List (CandleInterval × List IndicatorDefinition)}
    {extra : List (CandleInterval × Dict Time Row)}
    (hclocks : List.Forall₂ (fun group entry => ClockReady (group.2.map (·.id)) operands startsAt
      entry.1 entry.2) groups extra) (hclose : startsAt ≤ closeAt)
    (hheld : overlayExtraRows closeAt extra held = .ok held') :
    HeldReady (known ++ groups.flatMap (fun group => group.2.map (·.id))) operands startsAt held' := by
  induction hclocks generalizing known held with
  | nil =>
    cases hheld
    simpa using h
  | @cons group entry groups extra hclock _ ih =>
    obtain ⟨between, hbetween, hheld⟩ := bind_eq_ok hheld
    have hnext := ih (h.holdClock hids hclock hclose hbetween) hheld
    rw [flatMap_cons, ← append_assoc]
    exact hnext

theorem HeldReady.overlayReferenceRows
    {groups : List (ReferenceInstrument × List IndicatorDefinition)}
    {rowsById : List (String × Dict Time Row)}
    (hclocks : ∀ group ∈ groups, ∀ entry ∈ rowsById, entry.1 = group.1.id → ClockReady (group.2.map
      (·.id)) operands startsAt group.1.timeframe entry.2) (hclose : startsAt ≤ closeAt)
    (hheld : overlayReferenceRows closeAt rowsById groups held = .ok held') :
    HeldReady (known ++ groups.flatMap (fun group => group.2.map (·.id))) operands startsAt held' := by
  induction groups generalizing known held with
  | nil =>
    cases hheld
    simpa using h
  | cons group _ ih =>
    obtain ⟨between, hbetween, hheld⟩ := bind_eq_ok hheld
    -- a reference without rows holds nothing, so its clock is ready too
    have hclock : ClockReady (group.2.map (·.id)) operands startsAt group.1.timeframe
        (((rowsById.find? (fun entry => entry.1 = group.1.id)).map Prod.snd).getD .empty) := by
      cases hfound : rowsById.find? (fun entry => entry.1 = group.1.id) with
      | none => intro close _ row hrow; cases hrow
      | some entry =>
        have hid : entry.1 = group.1.id := by simpa using find?_some hfound
        exact hclocks group (by simp) entry (mem_of_find?_eq_some hfound) hid
    have hnext := ih (h.holdClock hids hclock hclose hbetween)
      (fun other hother => hclocks other (by simp [hother])) hheld
    rw [flatMap_cons, ← append_assoc]
    exact hnext

end

/-! ## Accepted runs -/

theorem mapM_related {α β : Type} {f : α → Result β} {related : α → β → Prop} {xs : List α}
    {ys : List β} (h : xs.mapM f = .ok ys) (hstep : ∀ x ∈ xs, ∀ y, f x = .ok y → related x y) :
    List.Forall₂ related xs ys := by
  refine (forall₂_and_left .. |>.mpr ⟨hstep, mapM_eq_ok h⟩).imp ?_
  exact fun x y hxy => hxy.1 y hxy.2

/-- No clock of a run has a zero denominator at any bar it selects. -/
structure RegularRun (engine : Engine) (specification : ResearchRunSpecification)
    (strategy : StrategyDefinition) (candles : ProductCandles)
    (references : Dict String (List Candle)) : Prop where
  decision : ∀ selected, requiredCandles specification candles.decision = .ok selected →
    NonDegenerate engine.math (decisionClockIndicators strategy) selected
  extra : ∀ group ∈ extraIndicatorTimeframeGroups strategy, ∀ selected,
    requiredHtfCandles (clockStarts engine strategy specification.evaluation group.1 group.2)
      (extraClockCandles strategy candles.extra candles.htf group.1) = .ok selected →
    NonDegenerate engine.math group.2 selected
  reference : ∀ group ∈ referenceIndicatorGroups strategy, ∀ selected,
    requiredHtfCandles
      (clockStarts engine strategy specification.evaluation group.1.timeframe group.2)
      ((references.get? group.1.id).getD []) = .ok selected →
    NonDegenerate engine.math group.2 selected
  filter : ∀ filter ∈ strategy.htfFilter, ∀ selected,
    requiredHtfCandles (closedBarStarts specification.evaluation.startsAt
      specification.evaluation.endsAt filter.timeframe filter.dataRequirements.warmupBars.value)
      candles.htf = .ok selected → NonDegenerate engine.math filter.indicators selected

variable {engine : Engine} {specification : ResearchRunSpecification} {strategy : StrategyDefinition}
  {candles : ProductCandles} {references : Dict String (List Candle)} {slower : SlowerRows}

variable (h : ValidatedDocument engine.updatesToConverge strategy)
include h

theorem ValidatedDocument.clockReady (hsub : indicators.Sublist strategy.indicators)
    {series : List Candle}
    (hregular : ∀ selected, requiredHtfCandles (clockStarts engine strategy specification.evaluation
      timeframe indicators) series = .ok selected → NonDegenerate engine.math indicators selected)
    (hrows : clockRows engine strategy indicators (clockStarts engine strategy
      specification.evaluation timeframe indicators) series = .ok rows) :
    ClockReady (indicators.map (·.id)) (strategyIndicatorOperands strategy)
      specification.evaluation.startsAt timeframe rows := by
  refine clockReady_of_clockRows ((hsub.map _).nodup h.distinct)
    (fun indicator hindicator => h.identifiers indicator (hsub.subset hindicator)) ?_ ?_ hregular hrows
  · intro operand hoperand indicator hindicator hid
    exact h.series hoperand (hsub.subset hindicator) hid
  · intro operand hoperand indicator hindicator hid
    exact extraIndicatorTimeframeWarmup_covers _ _ hindicator hoperand hid

theorem operand_identifier :
    ∀ operand ∈ strategyIndicatorOperands strategy, validIdentifier operand.indicator := by
  intro operand hoperand
  rcases mem_strategyIndicatorOperands.mp hoperand with hdecision | ⟨filter, hfilter, hfiltered⟩
  · obtain ⟨indicator, hindicator, hid, -⟩ := h.decisionResolved operand hdecision
    exact hid ▸ h.identifiers indicator hindicator
  · obtain ⟨indicator, hindicator, hid, -⟩ := (h.filter filter hfilter).resolved operand hfiltered
    exact hid ▸ (h.filter filter hfilter).identifiers indicator hindicator

theorem slowerRows_ready (hregular : RegularRun engine specification strategy candles references)
    (hslower : slowerRows engine specification strategy candles references = .ok slower) :
    List.Forall₂ (fun group entry => ClockReady (group.2.map (·.id))
        (strategyIndicatorOperands strategy) specification.evaluation.startsAt entry.1 entry.2)
        (extraIndicatorTimeframeGroups strategy) slower.extra ∧
      (∀ group ∈ referenceIndicatorGroups strategy, ∀ entry ∈ slower.reference,
        entry.1 = group.1.id → ClockReady (group.2.map (·.id)) (strategyIndicatorOperands strategy)
          specification.evaluation.startsAt group.1.timeframe entry.2) ∧
      ∀ filter ∈ strategy.htfFilter, ClockReady (filter.indicators.map (·.id))
        (strategyIndicatorOperands strategy) specification.evaluation.startsAt filter.timeframe
        slower.htf := by
  obtain ⟨extra, hextra, hslower⟩ := bind_eq_ok hslower
  obtain ⟨reference, hreference, hslower⟩ := bind_eq_ok hslower
  obtain ⟨htf, hhtf, rfl⟩ := bind_pure_ok hslower
  refine ⟨?_, ?_, ?_⟩
  · refine mapM_related hextra ?_
    intro group hgroup entry hentry
    obtain ⟨-, hentry⟩ := of_ite_ne hentry (fun hne => by cases hne)
    obtain ⟨rows, hrows, rfl⟩ := bind_pure_ok hentry
    refine h.clockReady ?_ (hregular.extra group hgroup) hrows
    obtain ⟨timeframe, -, rfl⟩ := mem_map.mp hgroup
    exact filter_sublist
  · intro group hgroup entry hentry hid
    obtain ⟨-, hreference⟩ := of_ite_ne hreference (fun hne => by cases hne)
    obtain ⟨source, hsource, hrun⟩ := mapM_mem hreference hentry
    obtain ⟨hsame, hrows⟩ := referenceRows_eq_ok hrun
    -- the ids of the references are distinct, so the rows are this group's own
    obtain ⟨first, hfirst, rfl⟩ := mem_map.mp hgroup
    obtain ⟨second, hsecond, rfl⟩ := mem_map.mp hsource
    obtain rfl := referenceInstruments_id_inj hfirst hsecond (hid.symm.trans hsame)
    exact h.clockReady filter_sublist (hregular.reference _ hgroup) hrows
  · intro filter hfilter
    have hvalid := h.filter filter hfilter
    have hfound : strategy.htfFilter = some filter := hfilter
    simp only [calculateHtfIndicatorRows, hfound] at hhtf
    obtain ⟨-, hhtf⟩ := of_ite_ne hhtf (fun hne => by cases hne)
    refine clockReady_of_clockRows hvalid.distinct hvalid.identifiers ?_ ?_
      (hregular.filter filter hfilter) hhtf
    · intro operand hoperand indicator hindicator hid
      obtain ⟨named, hnamed, hname, hseries⟩ :=
        hvalid.resolved operand (h.filterOperand hfilter hoperand hindicator hid)
      obtain rfl := inj_on_of_nodup_map hvalid.distinct hnamed hindicator (hname.symm.trans hid)
      exact hseries
    · intro operand hoperand indicator hindicator hid
      have hread := h.filterOperand hfilter hoperand hindicator hid
      exact (extraIndicatorTimeframeWarmup_covers engine.updatesToConverge _ hindicator hread
        hid).trans hvalid.warmup

theorem ValidatedDocument.known (hoperand : operand ∈ decisionOperands strategy) :
    operand.indicator ∈ ((decisionClockIndicators strategy).map (·.id) ++
      (extraIndicatorTimeframeGroups strategy).flatMap (fun group => group.2.map (·.id))) ++
      (referenceIndicatorGroups strategy).flatMap (fun group => group.2.map (·.id)) := by
  obtain ⟨indicator, hindicator, hid, -⟩ := h.decisionResolved operand hoperand
  rw [hid]
  cases hsource : indicator.source with
  | some source =>
    obtain ⟨-, hdeclared⟩ := h.sources indicator hindicator source hsource
    obtain ⟨reference, hreference, rfl⟩ := mem_map.mp hdeclared
    refine mem_append_right _ (mem_flatMap.mpr ⟨_, mem_map_of_mem hreference, ?_⟩)
    exact mem_map_of_mem (mem_filter.mpr ⟨hindicator, by simpa using hsource⟩)
  | none =>
    refine mem_append_left _ ?_
    by_cases hclock : resolvedIndicatorTimeframe indicator strategy.timeframe = strategy.timeframe
    · refine mem_append_left _ (mem_map_of_mem (mem_filter.mpr ⟨hindicator, ?_⟩))
      simp [hsource, hclock]
    · -- its clock is a slower one, whose group is kept since this indicator is in it
      have hgrouped : indicator ∈ strategy.indicators.filter (fun other =>
          resolvedIndicatorTimeframe other strategy.timeframe =
            resolvedIndicatorTimeframe indicator strategy.timeframe ∧
          resolvedIndicatorTimeframe indicator strategy.timeframe ≠ strategy.timeframe) :=
        mem_filter.mpr ⟨hindicator, by simp [hclock]⟩
      refine mem_append_right _ (mem_flatMap.mpr
        ⟨(resolvedIndicatorTimeframe indicator strategy.timeframe, _), ?_, mem_map_of_mem hgrouped⟩)
      refine mem_map.mpr ⟨resolvedIndicatorTimeframe indicator strategy.timeframe, ?_, rfl⟩
      refine mem_filter.mpr ⟨by cases resolvedIndicatorTimeframe indicator strategy.timeframe <;>
        decide, ?_⟩
      rw [decide_eq_true_eq]
      exact ne_nil_of_mem hgrouped

end Thytrader.Evaluation
