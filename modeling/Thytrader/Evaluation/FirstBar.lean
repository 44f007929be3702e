import Thytrader.Evaluation.DocumentWarmup

/-!
# The first evaluation bar

What the first evaluation bar of a research run reads: its own row and the row of the bar
before it, with every slower clock held onto both. The warmup of an accepted run is the
declared warmup of its strategy, and the evaluation starts where it ends, so in a validated
document both rows have a value for every operand.
-/

namespace Thytrader.Evaluation

open Lib MarketData Strategies List

variable {engine : Engine} {specification : ResearchRunSpecification} {strategy : StrategyDefinition}
  {candles : ProductCandles} {references : Dict String (List Candle)} {slower : SlowerRows}

/-! ## The shape of an accepted run -/

variable {startsAt : Time} {interval : CandleInterval} {selected : List Candle}
  {trace : SignalTrace}

theorem signalRecords_first {previous : Option (Candle × Row)} {bars : List (Candle × Row)}
    {records : List SignalTraceRecord}
    (h : signalRecords strategy slower startsAt previous bars = .ok records) {index : Nat}
    {bar : Candle × Row} (hbar : bars[index]? = some bar) (hlate : ¬ bar.1.startsAt < startsAt)
    (hearly : ∀ earlier < index, ∀ other, bars[earlier]? = some other →
      other.1.startsAt < startsAt) :
    ∃ record, signalRecord strategy slower (if index = 0 then previous else bars[index - 1]?) bar =
      .ok record := by
  induction bars generalizing previous index records with
  | nil => cases hbar
  | cons first _ ih =>
    cases index with
    | zero =>
      obtain rfl : first = bar := by simpa using hbar
      rw [signalRecords, if_neg hlate] at h
      obtain ⟨record, hrecord, -⟩ := bind_eq_ok h
      exact ⟨record, hrecord⟩
    | succ index =>
      have hfirst := hearly 0 (by omega) first rfl
      rw [signalRecords, if_pos hfirst] at h
      obtain ⟨record, hrecord⟩ := ih h hbar (fun earlier hlt other hother =>
        hearly (earlier + 1) (by omega) other hother)
      refine ⟨record, ?_⟩
      rw [← hrecord]
      cases index <;> rfl

/-- The clock and the warmup of an accepted run. -/
theorem verifyContract_spec (h : verifyContract engine specification strategy = .ok ()) :
    specification.warmup.bars = strategy.dataRequirements.warmupBars.value ∧
      specificationBarInterval specification = .ok strategy.timeframe := by
  obtain ⟨-, h⟩ := of_ite_ne h nofun
  obtain ⟨hbars, h⟩ := of_ite_ne h nofun
  obtain ⟨interval, hinterval, h⟩ := bind_eq_ok h
  obtain ⟨hclock, h⟩ := of_ite_ne h nofun
  exact ⟨not_not.mp hbars, by rw [hinterval, not_not.mp hclock]⟩

theorem specificationBarInterval_spec (h : specificationBarInterval specification = .ok interval) :
    specification.evaluation.startsAt =
        specification.warmup.startsAt + interval.duration * specification.warmup.bars ∧
      1 ≤ ((specification.evaluation.endsAt - specification.evaluation.startsAt).tdiv
        interval.duration).toNat := by
  unfold specificationBarInterval at h
  simp only at h
  split at h
  · cases h
  next found hfound =>
    obtain ⟨haligned, h⟩ := of_ite_ne h nofun
    obtain rfl := Except.ok.inj h
    have hspan := find?_some hfound
    simp only [decide_eq_true_eq] at hspan
    simp only [any_cons, any_nil, Bool.or_false, Bool.or_eq_true, decide_eq_true_eq,
      not_or, not_not] at haligned
    refine ⟨by linarith, ?_⟩
    have hnonempty := specification.evaluation.nonempty
    have hminute : (0 : Int) < minuteLength := by decide
    have hpos := found.duration_pos
    -- both ends lie on the clock, so the window is a positive number of bars
    obtain ⟨first, hfirst⟩ := found.dvd_alignClosedEnd specification.evaluation.startsAt
    obtain ⟨last, hlast⟩ := found.dvd_alignClosedEnd specification.evaluation.endsAt
    rw [haligned.2.1] at hfirst
    rw [haligned.2.2] at hlast
    have hbars : specification.evaluation.endsAt - specification.evaluation.startsAt =
        found.duration * (last - first) := by
      rw [hfirst, hlast]
      ring
    have hlt : 0 < found.duration * (last - first) := by
      linarith
    have hcount : 0 < last - first := by
      by_contra hle
      exact absurd hlt (not_lt.mpr (mul_nonpos_of_nonneg_of_nonpos hpos.le (not_lt.mp hle)))
    rw [hbars, Int.mul_tdiv_cancel_left _ hpos.ne']
    omega

/-! ## The rows of the first bar -/

def OperandsDefined (operands : List IndicatorOperand) (row : Row) : Prop :=
  ∀ operand ∈ operands, (operandValue row (.indicator operand)).isSome

structure FirstReads (specification : ResearchRunSpecification) (strategy : StrategyDefinition)
    (slower : SlowerRows) (bars : List (Candle × Row)) (before first : Candle × Row) (held : Held) :
    Prop where
  beforeAt : bars[specification.warmup.bars - 1]? = some before
  firstAt : bars[specification.warmup.bars]? = some first
  starts : first.1.startsAt = specification.evaluation.startsAt
  adjacent : ltfClose before.1.startsAt strategy.timeframe = specification.evaluation.startsAt
  held : overlayIndicatorTimeframeValues strategy (ltfClose first.1.startsAt strategy.timeframe)
    slower.extra slower.reference
    ⟨first.2, some (ltfClose before.1.startsAt strategy.timeframe, before.2)⟩ = .ok held


/-- The bars of an accepted selection stand on the clock. -/
theorem requiredCandles_getElem?
    (h : requiredCandles specification candles.decision = .ok selected)
    (hinterval : specificationBarInterval specification = .ok interval) {bar : Nat}
    (hbar : bar < specification.warmup.bars +
      ((specification.evaluation.endsAt - specification.evaluation.startsAt).tdiv
        interval.duration).toNat) :
    ∃ candle, selected[bar]? = some candle ∧
      candle.startsAt = specification.warmup.startsAt + interval.duration * bar := by
  obtain ⟨found, hfound, hstarts, -⟩ := requiredCandles_spec h
  obtain rfl : found = interval := Except.ok.inj (hfound.symm.trans hinterval)
  have hstart : (selected.map (·.startsAt))[bar]? =
      some (specification.warmup.startsAt + found.duration * bar) := by
    rw [hstarts, decisionStarts, getElem?_map, getElem?_range hbar, Option.map_some]
  rw [getElem?_map, Option.map_eq_some_iff] at hstart
  exact hstart

theorem ValidatedDocument.decisionReady (h : ValidatedDocument engine.updatesToConverge strategy)
    (hpositive : PositivePrices selected)
    (hregular : NonDegenerate engine.math (decisionClockIndicators strategy) selected) {bar : Nat}
    (hwarm : strategy.dataRequirements.warmupBars.value ≤ bar + 1) {row : Row}
    (hrow : (calculateIndicatorRows engine.math (decisionClockIndicators strategy)
      (strategyIndicatorOperands strategy) selected)[bar]? = some row) :
    RowReady ((decisionClockIndicators strategy).map (·.id)) (strategyIndicatorOperands strategy)
      row := by
  have hsub : (decisionClockIndicators strategy).Sublist strategy.indicators := filter_sublist
  refine rowReady_of_warm ((hsub.map _).nodup h.distinct)
    (fun indicator hindicator => h.identifiers indicator (hsub.subset hindicator)) ?_ hpositive
    hregular ?_ hrow
  · intro operand hoperand indicator hindicator hid
    exact h.series hoperand (hsub.subset hindicator) hid
  · intro operand hoperand indicator hindicator hid
    have hcovered := extraIndicatorTimeframeWarmup_covers engine.updatesToConverge
      strategy.dataRequirements.convergenceWarmup hindicator hoperand hid
    exact (hcovered.trans h.warmup).trans hwarm

theorem firstBars_exist {rows : List Row}
    (hcontract : verifyContract engine specification strategy = .ok ())
    (hselected : requiredCandles specification candles.decision = .ok selected)
    (hrows : rows.length = selected.length)
    (hrecords : signalRecords strategy slower specification.evaluation.startsAt none
      (selected.zip rows) = .ok trace.records) :
    ∃ before first record,
      (selected.zip rows)[specification.warmup.bars - 1]? = some before ∧
      (selected.zip rows)[specification.warmup.bars]? = some first ∧
      first.1.startsAt = specification.evaluation.startsAt ∧
      ltfClose before.1.startsAt strategy.timeframe = specification.evaluation.startsAt ∧
      signalRecord strategy slower (some before) first = .ok record := by
  obtain ⟨hbars, hinterval⟩ := verifyContract_spec hcontract
  obtain ⟨hend, hsome⟩ := specificationBarInterval_spec hinterval
  have hwarmup : 1 ≤ specification.warmup.bars := by
    rw [hbars]
    exact strategy.dataRequirements.warmupBars.lower
  have hpaired {bar : Nat} {candle : Candle} (hcandle : selected[bar]? = some candle) :
      ∃ row, (selected.zip rows)[bar]? = some (candle, row) := by
    have hlt : bar < rows.length := by
      rw [hrows]
      exact (List.getElem?_eq_some_iff.mp hcandle).1
    exact ⟨_, getElem?_zip_eq_some.mpr ⟨hcandle, getElem?_eq_getElem hlt⟩⟩
  obtain ⟨first, hfirst, hfirstAt⟩ := requiredCandles_getElem? hselected hinterval
    (show specification.warmup.bars < _ by omega)
  obtain ⟨before, hbefore, hbeforeAt⟩ := requiredCandles_getElem? hselected hinterval
    (show specification.warmup.bars - 1 < _ by omega)
  obtain ⟨row, hfirst⟩ := hpaired hfirst
  obtain ⟨rowBefore, hbefore⟩ := hpaired hbefore
  -- the bars before it start inside the warmup, so its record is the first
  obtain ⟨record, hrecord⟩ := signalRecords_first hrecords hfirst
    (by rw [hfirstAt, hend]; exact lt_irrefl _) (by
      intro earlier hlt other hother
      have hcandle := (getElem?_zip_eq_some.mp hother).1
      obtain ⟨candle, hat, hstart⟩ := requiredCandles_getElem? hselected hinterval
        (show earlier < _ by omega)
      cases hcandle.symm.trans hat
      have hearlier : (earlier : Int) < (specification.warmup.bars : Int) := by exact_mod_cast hlt
      have hduration := strategy.timeframe.duration_pos
      have hspan := mul_lt_mul_of_pos_left hearlier hduration
      linarith)
  rw [if_neg (by omega), hbefore] at hrecord
  refine ⟨(before, rowBefore), (first, row), record, hbefore, hfirst, ?_, ?_, hrecord⟩
  · rw [hfirstAt, hend]
  · rw [ltfClose, hbeforeAt, hend, Nat.cast_sub hwarmup]
    ring

theorem RowReady.operandsDefined {known : List String} {operands read : List IndicatorOperand}
    {row : Row} (h : RowReady known operands row)
    (hread : ∀ operand ∈ read, operand ∈ operands ∧ operand.indicator ∈ known) :
    OperandsDefined read row := by
  intro operand hoperand
  obtain ⟨hlisted, hknown⟩ := hread operand hoperand
  exact h.defined operand hlisted hknown

theorem ValidatedDocument.filterReady (h : ValidatedDocument engine.updatesToConverge strategy)
    {closeAt previousClose : Time} {filter : HigherTimeframeFilter}
    (hfilter : filter ∈ strategy.htfFilter)
    (hclock : ClockReady (filter.indicators.map (·.id)) (strategyIndicatorOperands strategy) startsAt
      filter.timeframe slower.htf) (hclose : startsAt ≤ closeAt)
    (hprevious : startsAt ≤ previousClose) {outcome : EntryConditionOutcome × Row}
    (hrun : htfFilterOutcome strategy closeAt (some previousClose) slower.htf = .ok outcome) :
    ∃ current previous,
      slower.htf.get? (mappedHtfStart closeAt filter.timeframe) = some current ∧
      slower.htf.get? (mappedHtfStart previousClose filter.timeframe) = some previous ∧
      OperandsDefined (conditionIndicatorOperands filter.condition) current ∧
      OperandsDefined (conditionIndicatorOperands filter.condition) previous := by
  have hfound : strategy.htfFilter = some filter := hfilter
  simp only [htfFilterOutcome, hfound] at hrun
  obtain ⟨current, hcurrent, hrun⟩ := bind_eq_ok hrun
  obtain ⟨previous, hbefore, -⟩ := bind_eq_ok hrun
  have hread : ∀ operand ∈ conditionIndicatorOperands filter.condition,
      operand ∈ strategyIndicatorOperands strategy ∧
        operand.indicator ∈ filter.indicators.map (·.id) := by
    intro operand hoperand
    obtain ⟨indicator, hindicator, hid, -⟩ := (h.filter filter hfilter).resolved operand hoperand
    exact ⟨mem_strategyIndicatorOperands.mpr (.inr ⟨filter, hfilter, hoperand⟩),
      hid ▸ mem_map_of_mem hindicator⟩
  refine ⟨current, previous, heldRow_get? hcurrent, heldRow_get? hbefore, ?_, ?_⟩
  · exact (heldRow_ready hclock hclose hcurrent).operandsDefined hread
  · exact (heldRow_ready hclock hprevious hbefore).operandsDefined hread

/-- The first evaluation bar and the one before have a value for every operand: of the entry and the
signal exit in the held rows, of a filter in the filter rows. -/
def FirstBarsDefined (engine : Engine) (specification : ResearchRunSpecification)
    (strategy : StrategyDefinition) (candles : ProductCandles)
    (references : Dict String (List Candle)) : Prop :=
  ∃ selected slower before first held previous,
    requiredCandles specification candles.decision = .ok selected ∧
    slowerRows engine specification strategy candles references = .ok slower ∧
    FirstReads specification strategy slower
      (selected.zip (calculateIndicatorRows engine.math (decisionClockIndicators strategy)
        (strategyIndicatorOperands strategy) selected)) before first held ∧
    held.previous = some previous ∧
    OperandsDefined (decisionOperands strategy) held.current ∧
    OperandsDefined (decisionOperands strategy) previous.2 ∧
    ∀ filter ∈ strategy.htfFilter, ∃ current previous,
      slower.htf.get? (mappedHtfStart (ltfClose first.1.startsAt strategy.timeframe)
        filter.timeframe) = some current ∧
      slower.htf.get? (mappedHtfStart (ltfClose before.1.startsAt strategy.timeframe)
        filter.timeframe) = some previous ∧
      OperandsDefined (conditionIndicatorOperands filter.condition) current ∧
      OperandsDefined (conditionIndicatorOperands filter.condition) previous

theorem evaluateSignalTrace_firstReads
    (hvalid : ValidatedDocument engine.updatesToConverge strategy)
    (hregular : RegularRun engine specification strategy candles references)
    (h : evaluateSignalTrace engine specification strategy candles references = .ok trace) :
    FirstBarsDefined engine specification strategy candles references := by
  obtain ⟨_, hcontract, -⟩ := bind_eq_ok h
  obtain ⟨selected, slower, hselected, hslower, hrecords⟩ := evaluateSignalTrace_inv h
  obtain ⟨before, first, record, hbefore, hfirst, hstarts, hadjacent, hrecord⟩ :=
    firstBars_exist hcontract hselected
      ((causal_calculateIndicatorRows engine.math _ _).length_eq selected) hrecords
  obtain ⟨held, hheld, hrecord⟩ := bind_eq_ok hrecord
  obtain ⟨outcome, hfilter, -⟩ := bind_eq_ok hrecord
  obtain ⟨hbars, -⟩ := verifyContract_spec hcontract
  obtain ⟨hextra, hreference, hhtf⟩ := slowerRows_ready hvalid hregular hslower
  have hpositive := requiredCandles_positive hselected
  have hdecision := hregular.decision selected hselected
  have hduration := strategy.timeframe.duration_pos
  have hclose : specification.evaluation.startsAt ≤ ltfClose first.1.startsAt strategy.timeframe := by
    rw [ltfClose, hstarts]
    linarith
  -- the decision rows are ready on their own clock; the slower clocks add the others
  have hready : HeldReady ((decisionClockIndicators strategy).map (·.id))
      (strategyIndicatorOperands strategy) specification.evaluation.startsAt
      ⟨first.2, some (ltfClose before.1.startsAt strategy.timeframe, before.2)⟩ := by
    refine ⟨?_, _, rfl, hadjacent.ge, ?_⟩
    · exact hvalid.decisionReady hpositive hdecision (by omega) (getElem?_zip_eq_some.mp hfirst).2
    · exact hvalid.decisionReady hpositive hdecision (by omega) (getElem?_zip_eq_some.mp hbefore).2
  obtain ⟨between, hbetween, hlast⟩ := bind_eq_ok hheld
  have hids := operand_identifier hvalid
  have hall := (hready.overlayExtraRows hids hextra hclose hbetween).overlayReferenceRows hids
    hreference hclose hlast
  obtain ⟨previous, hprevious, -, hpreviousReady⟩ := hall.previous
  have hread : ∀ operand ∈ decisionOperands strategy, operand ∈ strategyIndicatorOperands strategy ∧
      operand.indicator ∈ ((decisionClockIndicators strategy).map (·.id) ++
        (extraIndicatorTimeframeGroups strategy).flatMap (fun group => group.2.map (·.id))) ++
        (referenceIndicatorGroups strategy).flatMap (fun group => group.2.map (·.id)) := by
    intro operand hoperand
    exact ⟨mem_strategyIndicatorOperands.mpr (.inl hoperand), hvalid.known hoperand⟩
  refine ⟨selected, slower, before, first, held, previous, hselected, hslower,
    ⟨hbefore, hfirst, hstarts, hadjacent, hheld⟩, hprevious, hall.current.operandsDefined hread,
    hpreviousReady.operandsDefined hread, ?_⟩
  intro filter hfound
  exact hvalid.filterReady hfound (hhtf filter hfound) hclose hadjacent.ge hfilter

end Thytrader.Evaluation
