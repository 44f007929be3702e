import Thytrader.Evaluation.SignalEvaluator

/-!
# Signal traces do not look ahead

Two evaluations of one strategy whose candles agree on every bar closed by an instant
emit the same records for every decision bar closed by then.

Selected candles sit on one grid (`Matches`), indicator rows are causal, and a slower row is held
only from a bar that has closed (`mappedHtfStart_closed`).
-/

namespace Thytrader.Evaluation

open Lib MarketData Strategies List

variable {starts : List Time} {candles first second : List Candle}
  {specification : ResearchRunSpecification} {timeframe : CandleInterval} {rows' : Dict Time Row}
  {references : Dict String (List Candle)} {previous : Option (Candle × Row)}

/-- Two series agree on every bar of a clock that has closed by an instant. -/
def AgreeUntil (closedBy : Time) (duration : Duration) (first second : List Candle) : Prop :=
  ∀ candle : Candle, candle.startsAt + duration ≤ closedBy → (candle ∈ first ↔ candle ∈ second)

/-- The candles of one product agree on every clock the strategy reads; the same extra
clocks are supplied. -/
structure ProductCandles.AgreeUntil (strategy : StrategyDefinition) (closedBy : Time)
    (first second : ProductCandles) : Prop where
  decision : Evaluation.AgreeUntil closedBy strategy.timeframe.duration first.decision second.decision
  htf : ∀ filter ∈ strategy.htfFilter,
    Evaluation.AgreeUntil closedBy filter.timeframe.duration first.htf second.htf
  extra : ∀ timeframe, Option.Rel (Evaluation.AgreeUntil closedBy timeframe.duration)
    (first.extra.get? timeframe) (second.extra.get? timeframe)

/-- The reference series agree, each on its own clock. -/
def ReferencesAgree (strategy : StrategyDefinition) (closedBy : Time)
    (first second : Dict String (List Candle)) : Prop :=
  ∀ reference ∈ referenceInstruments strategy, AgreeUntil closedBy reference.timeframe.duration
    ((first.get? reference.id).getD []) ((second.get? reference.id).getD [])

/-! ## Grids of bar starts -/

theorem grid_increasing (start : Time) {bar : Duration} (hbar : 0 < bar) (count : Nat) :
    ((List.range count).map (fun index : Nat => start + bar * index)).Pairwise (· < ·) := by
  rw [pairwise_map]
  refine pairwise_lt_range.imp ?_
  intro i j hij
  have hlt : bar * (i : Int) < bar * (j : Int) :=
    Int.mul_lt_mul_of_pos_left (by exact_mod_cast hij) hbar
  linarith

/-- On increasing starts no closed bar comes after an open one. -/
theorem closed_ordered (h : starts.Pairwise (· < ·)) (closedBy : Time) (duration : Duration) :
    starts.Pairwise (fun a b => b + duration ≤ closedBy → a + duration ≤ closedBy) :=
  h.imp (fun hlt hclosed => by linarith)

/-! ## Decision candles -/

def decisionStarts (specification : ResearchRunSpecification) (interval : CandleInterval) :
    List Time :=
  let span := specification.evaluation.endsAt - specification.evaluation.startsAt
  (List.range (specification.warmup.bars + (span.tdiv interval.duration).toNat)).map
    (fun index : Nat => specification.warmup.startsAt + interval.duration * index)

theorem decisionStarts_increasing (specification : ResearchRunSpecification)
    (interval : CandleInterval) : (decisionStarts specification interval).Pairwise (· < ·) :=
  grid_increasing _ interval.duration_pos _

theorem requireContiguous_starts {startsAt : Time} {bar : Duration} {index : Nat}
    (h : requireContiguous startsAt bar index candles = .ok ()) :
    candles.map (·.startsAt) =
      (List.range candles.length).map (fun offset : Nat => startsAt + bar * (index + offset : Nat)) := by
  induction candles generalizing index with
  | nil => rfl
  | cons _ _ ih =>
    rw [requireContiguous] at h
    split at h
    · exact absurd h (by simp [reject])
    next hstart =>
      obtain ⟨_, -, h⟩ := bind_eq_ok h
      rw [map_cons, length_cons, range_succ_eq_map, map_cons, ih h, map_map]
      simp only [ne_eq, not_not] at hstart
      congr 1
      apply map_congr_left
      intro offset _
      simp only [Function.comp_apply]
      rw [show index + 1 + offset = index + offset.succ by omega]

section

variable {selected : List Candle} (h : requiredCandles specification candles = .ok selected)
include h

theorem requiredCandles_spec :
    ∃ interval, specificationBarInterval specification = .ok interval ∧
      selected.map (·.startsAt) = decisionStarts specification interval ∧
      ∀ candle, candle ∈ selected ↔ candle ∈ candles ∧
        specification.warmup.startsAt ≤ candle.startsAt ∧
        candle.startsAt < specification.evaluation.endsAt := by
  obtain ⟨interval, hinterval, h⟩ := bind_eq_ok h
  simp only at h
  split at h
  · exact absurd h (by simp [reject])
  next hcount =>
    obtain ⟨_, hcontiguous, rfl⟩ := bind_pure_ok h
    refine ⟨interval, hinterval, ?_, by simp⟩
    rw [requireContiguous_starts hcontiguous, decisionStarts, not_not.mp hcount]
    simp only [Nat.zero_add]

theorem requiredCandles_unique {first second : Candle} (hfirst : first ∈ selected)
    (hsecond : second ∈ selected) (hstart : first.startsAt = second.startsAt) : first = second := by
  obtain ⟨interval, -, hstarts, -⟩ := requiredCandles_spec h
  have hnodup : (selected.map (·.startsAt)).Nodup := by
    rw [hstarts]
    exact (decisionStarts_increasing specification interval).imp (fun hlt => ne_of_lt hlt)
  exact inj_on_of_nodup_map hnodup hfirst hsecond hstart

end

variable {selected' : List Candle} {duration : Duration} {references' : Dict String (List Candle)}
  {trace : SignalTrace} {selected : List Candle} {closedBy : Time}

/-- Two accepted selections match on the bars closed by an instant. -/
theorem requiredCandles_matches (hagree : AgreeUntil closedBy duration first second)
    (h : requiredCandles specification first = .ok selected)
    (h' : requiredCandles specification second = .ok selected') :
    Matches (·.startsAt) (fun start => start + duration ≤ closedBy) selected selected' := by
  obtain ⟨interval, hinterval, hstarts, hmem⟩ := requiredCandles_spec h
  obtain ⟨interval', hinterval', hstarts', hmem'⟩ := requiredCandles_spec h'
  obtain rfl : interval = interval' := Except.ok.inj (hinterval.symm.trans hinterval')
  refine matches_of_stamps (hstarts.trans hstarts'.symm) ?_
  intro candle hcandle other hother hstart hclosed
  obtain ⟨hmember, hwindow⟩ := (hmem candle).mp hcandle
  have hshared : candle ∈ selected' :=
    (hmem' candle).mpr ⟨(hagree candle hclosed).mp hmember, hwindow⟩
  exact requiredCandles_unique h' hshared hother hstart

/-! ## Candles of the slower clocks -/

theorem indexCandlesByStart_spec {indexed byStart : Dict Time Candle}
    (h : indexCandlesByStart candles indexed = .ok byStart) :
    (candles.map (·.startsAt)).Nodup ∧ (∀ candle ∈ candles, indexed.get? candle.startsAt = none) ∧
      ∀ start candle, byStart.get? start = some candle →
        indexed.get? start = some candle ∨ (candle ∈ candles ∧ candle.startsAt = start) := by
  induction candles generalizing indexed with
  | nil =>
    cases h
    exact ⟨nodup_nil, by simp, fun _ _ hfound => .inl hfound⟩
  | cons candle rest ih =>
    rw [indexCandlesByStart] at h
    split at h
    · exact absurd h (by simp [reject])
    next hfresh =>
      obtain ⟨hnodup, hrest, hfound⟩ := ih h
      have hnone : indexed.get? candle.startsAt = none := by
        simpa [Dict.contains] using hfresh
      -- a later candle is not indexed yet, so it does not sit on this start
      have hother : ∀ other ∈ rest, other.startsAt ≠ candle.startsAt := by
        intro other hmem hsame
        have := hrest other hmem
        rw [hsame, Dict.get?_set_self] at this
        cases this
      refine ⟨?_, ?_, ?_⟩
      · rw [map_cons, nodup_cons]
        refine ⟨?_, hnodup⟩
        intro hmem
        obtain ⟨other, hmem, hsame⟩ := mem_map.mp hmem
        exact hother other hmem hsame
      · rintro other (_ | ⟨_, hmem⟩)
        · exact hnone
        · rw [← Dict.get?_set_ne (hother other hmem) candle]
          exact hrest other hmem
      · intro start found hget
        rcases hfound start found hget with hset | ⟨hmem, hstart⟩
        · obtain ⟨hstart, rfl⟩ | ⟨-, hset⟩ := Dict.get?_set_cases rfl hset
          · exact .inr ⟨by simp, hstart.symm⟩
          · exact .inl hset
        · exact .inr ⟨by simp [hmem], hstart⟩

/-- An accepted slower clock has one supplied candle on each expected start, and no two
supplied candles share a start. -/
theorem requiredHtfCandles_spec (h : requiredHtfCandles starts candles = .ok selected) :
    selected.map (·.startsAt) = starts ∧ (∀ candle ∈ selected, candle ∈ candles) ∧
      (candles.map (·.startsAt)).Nodup := by
  obtain ⟨byStart, hindex, hselected⟩ := bind_eq_ok h
  clear h
  obtain ⟨hnodup, -, hfound⟩ := indexCandlesByStart_spec hindex
  have hexpected : ∀ start candle, expectedCandle byStart start = .ok candle →
      candle ∈ candles ∧ candle.startsAt = start := by
    intro start candle hcandle
    unfold expectedCandle at hcandle
    split at hcandle
    · exact absurd hcandle (by simp [reject])
    next found hget =>
      obtain ⟨_, -, hcandle⟩ := bind_eq_ok hcandle
      obtain rfl := Except.ok.inj hcandle
      exact (hfound start found hget).resolve_left (by simp)
  have hall := (mapM_eq_ok hselected).imp hexpected
  clear hselected
  refine ⟨?_, ?_, hnodup⟩
  · induction hall with
    | nil => rfl
    | cons hcandle _ ih => rw [map_cons, hcandle.2, ih]
  · induction hall with
    | nil => simp
    | cons hcandle _ ih =>
      rintro candle (_ | ⟨_, hmem⟩)
      · exact hcandle.1
      · exact ih candle hmem

/-- Two accepted selections of a slower clock match on the bars closed by an instant. -/
theorem requiredHtfCandles_matches (hagree : AgreeUntil closedBy duration first second)
    (h : requiredHtfCandles starts first = .ok selected)
    (h' : requiredHtfCandles starts second = .ok selected') :
    Matches (·.startsAt) (fun start => start + duration ≤ closedBy) selected selected' := by
  obtain ⟨hstarts, hmem, -⟩ := requiredHtfCandles_spec h
  obtain ⟨hstarts', hmem', hnodup⟩ := requiredHtfCandles_spec h'
  refine matches_of_stamps (hstarts.trans hstarts'.symm) ?_
  intro candle hcandle other hother hstart hclosed
  have hshared : candle ∈ second := (hagree candle hclosed).mp (hmem candle hcandle)
  exact inj_on_of_nodup_map hnodup hshared (hmem' other hother) hstart

/-! ## Rows of the slower clocks -/

/-- Two clocks hold the same row for every bar closed by an instant. -/
def RowsAgree (closedBy : Time) (timeframe : CandleInterval) (first second : Dict Time Row) : Prop :=
  ∀ start, start + timeframe.duration ≤ closedBy → first.get? start = second.get? start

theorem closedBarStarts_increasing (startsAt endsAt : Time) (timeframe : CandleInterval)
    (warmupBars : Nat) :
    (closedBarStarts startsAt endsAt timeframe warmupBars).Pairwise (· < ·) := by
  exact grid_increasing _ timeframe.duration_pos _

section

variable {engine : Engine} {strategy : StrategyDefinition} {window : EvaluationWindow}
  {closedBy : Time} {rows : Dict Time Row}

/-- Rows of matching candles agree: an indicator reads no later bar. -/
theorem clockRows_agree {indicators : List IndicatorDefinition}
    (hincreasing : starts.Pairwise (· < ·))
    (hagree : AgreeUntil closedBy timeframe.duration first second)
    (h : clockRows engine strategy indicators starts first = .ok rows)
    (h' : clockRows engine strategy indicators starts second = .ok rows') :
    RowsAgree closedBy timeframe rows rows' := by
  obtain ⟨selected, hselected, h⟩ := bind_eq_ok h
  obtain ⟨selected', hselected', h'⟩ := bind_eq_ok h'
  cases h
  cases h'
  have hordered := closed_ordered hincreasing closedBy timeframe.duration
  rw [← (requiredHtfCandles_spec hselected).1] at hordered
  have hmatches := (requiredHtfCandles_matches hagree hselected hselected').zip_causal
    (causal_calculateIndicatorRows engine.math indicators (strategyIndicatorOperands strategy))
    hordered
  intro start hclosed
  refine Dict.get?_foldl_set_congr (fun bar : Candle × Row => bar.1.startsAt) Prod.snd
    (hmatches.imp ?_) rfl
  intro bar bar' hbar
  refine ⟨hbar.1, ?_⟩
  rintro rfl
  exact congrArg Prod.snd (hbar.2 hclosed)

theorem calculateHtfIndicatorRows_agree {filter : HigherTimeframeFilter}
    (hfilter : strategy.htfFilter = some filter)
    (hagree : AgreeUntil closedBy filter.timeframe.duration first second)
    (h : calculateHtfIndicatorRows engine strategy first window = .ok rows)
    (h' : calculateHtfIndicatorRows engine strategy second window = .ok rows') :
    RowsAgree closedBy filter.timeframe rows rows' := by
  simp only [calculateHtfIndicatorRows, hfilter] at h h'
  split at h
  · exact absurd h (by simp [reject])
  · split at h'
    · exact absurd h' (by simp [reject])
    · exact clockRows_agree (closedBarStarts_increasing _ _ _ _) hagree h h'

theorem extraClockCandles_agree {first second : ProductCandles} (timeframe : CandleInterval)
    (hagree : first.AgreeUntil strategy closedBy second) :
    AgreeUntil closedBy timeframe.duration
      (extraClockCandles strategy first.extra first.htf timeframe)
      (extraClockCandles strategy second.extra second.htf timeframe) := by
  have hextra := hagree.extra timeframe
  unfold extraClockCandles
  generalize first.extra.get? timeframe = supplied at hextra
  generalize second.extra.get? timeframe = supplied' at hextra
  cases hextra with
  | some hseries => exact hseries
  | none =>
    simp only
    split
    next hclock =>
      -- the filter's own series on the same clock
      obtain ⟨filter, hfilter, rfl⟩ := Option.map_eq_some_iff.mp hclock
      exact hagree.htf filter hfilter
    · exact fun _ _ => Iff.rfl

def ExtraAgree (closedBy : Time) :
    List (CandleInterval × Dict Time Row) → List (CandleInterval × Dict Time Row) → Prop :=
  List.Forall₂ (fun clock clock' => clock.1 = clock'.1 ∧ RowsAgree closedBy clock.1 clock.2 clock'.2)

theorem calculateExtraIndicatorRows_agree {first second : ProductCandles}
    {rows rows' : List (CandleInterval × Dict Time Row)}
    (hagree : first.AgreeUntil strategy closedBy second)
    (h : calculateExtraIndicatorRows engine strategy first.extra first.htf window = .ok rows)
    (h' : calculateExtraIndicatorRows engine strategy second.extra second.htf window = .ok rows') :
    ExtraAgree closedBy rows rows' := by
  refine mapM_forall₂ h h' ?_
  intro group _ clock clock' hclock hclock'
  unfold extraClockRows at hclock hclock'
  simp only at hclock hclock'
  split at hclock
  · exact absurd hclock (by simp [reject])
  · split at hclock'
    · exact absurd hclock' (by simp [reject])
    · obtain ⟨held, hheld, hclock⟩ := bind_eq_ok hclock
      obtain ⟨held', hheld', hclock'⟩ := bind_eq_ok hclock'
      cases hclock
      cases hclock'
      exact ⟨rfl, clockRows_agree (closedBarStarts_increasing _ _ _ _)
        (extraClockCandles_agree group.1 hagree) hheld hheld'⟩

def ReferenceRowsAgree (strategy : StrategyDefinition) (closedBy : Time) :
    List (String × Dict Time Row) → List (String × Dict Time Row) → Prop :=
  List.Forall₂ (fun entry entry' => entry.1 = entry'.1 ∧
    ∀ reference ∈ referenceInstruments strategy, reference.id = entry.1 →
      RowsAgree closedBy reference.timeframe entry.2 entry'.2)

theorem referenceInstruments_id_inj {first second : ReferenceInstrument}
    (hfirst : first ∈ referenceInstruments strategy)
    (hsecond : second ∈ referenceInstruments strategy) (hid : first.id = second.id) :
    first = second :=
  inj_on_of_nodup_map strategy.dataRequirements.referencesDistinct.1 hfirst hsecond hid

theorem referenceRows_eq_ok {referenceCandles : Dict String (List Candle)}
    {group : ReferenceInstrument × List IndicatorDefinition} {entry : String × Dict Time Row}
    (h : referenceRows engine strategy referenceCandles window group = .ok entry) :
    entry.1 = group.1.id ∧ clockRows engine strategy group.2
      (clockStarts engine strategy window group.1.timeframe group.2)
      ((referenceCandles.get? group.1.id).getD []) = .ok entry.2 := by
  unfold referenceRows at h
  simp only at h
  split at h
  · exact absurd h (by simp [reject])
  · split at h
    next rows hrows =>
      cases h
      exact ⟨rfl, hrows⟩
    · exact absurd h (by simp [reject])

theorem calculateReferenceIndicatorRows_agree {first second : Dict String (List Candle)}
    {rows rows' : List (String × Dict Time Row)}
    (hagree : ReferencesAgree strategy closedBy first second)
    (h : calculateReferenceIndicatorRows engine strategy first window = .ok rows)
    (h' : calculateReferenceIndicatorRows engine strategy second window = .ok rows') :
    ReferenceRowsAgree strategy closedBy rows rows' := by
  unfold calculateReferenceIndicatorRows at h h'
  simp only at h h'
  split at h
  · exact absurd h (by simp [reject])
  · split at h'
    · exact absurd h' (by simp [reject])
    · refine mapM_forall₂ h h' ?_
      intro group hgroup entry entry' hentry hentry'
      obtain ⟨hid, hrows⟩ := referenceRows_eq_ok hentry
      obtain ⟨hid', hrows'⟩ := referenceRows_eq_ok hentry'
      refine ⟨hid.trans hid'.symm, ?_⟩
      intro reference hreference hsame
      obtain ⟨declared, hdeclared, rfl⟩ := mem_map.mp hgroup
      obtain rfl := referenceInstruments_id_inj hreference hdeclared (hsame.trans hid)
      exact clockRows_agree (closedBarStarts_increasing _ _ _ _) (hagree reference hreference)
        hrows hrows'

end

/-- The slower rows of two evaluations agree on every bar closed by an instant. -/
structure SlowerRows.Agree (strategy : StrategyDefinition) (closedBy : Time)
    (first second : SlowerRows) : Prop where
  extra : ExtraAgree closedBy first.extra second.extra
  reference : ReferenceRowsAgree strategy closedBy first.reference second.reference
  htf : ∀ filter ∈ strategy.htfFilter, RowsAgree closedBy filter.timeframe first.htf second.htf

variable {engine : Engine}

theorem slowerRows_agree {strategy : StrategyDefinition} {first second : ProductCandles}
    {slower slower' : SlowerRows} (hcandles : first.AgreeUntil strategy closedBy second)
    (hreferences : ReferencesAgree strategy closedBy references references')
    (h : slowerRows engine specification strategy first references = .ok slower)
    (h' : slowerRows engine specification strategy second references' = .ok slower') :
    slower.Agree strategy closedBy slower' := by
  obtain ⟨extra, hextra, h⟩ := bind_eq_ok h
  obtain ⟨reference, hreference, h⟩ := bind_eq_ok h
  obtain ⟨htf, hhtf, h⟩ := bind_eq_ok h
  obtain ⟨extra', hextra', h'⟩ := bind_eq_ok h'
  obtain ⟨reference', hreference', h'⟩ := bind_eq_ok h'
  obtain ⟨htf', hhtf', h'⟩ := bind_eq_ok h'
  cases h
  cases h'
  refine ⟨calculateExtraIndicatorRows_agree hcandles hextra hextra',
    calculateReferenceIndicatorRows_agree hreferences hreference hreference', ?_⟩
  intro filter hfilter
  exact calculateHtfIndicatorRows_agree hfilter (hcandles.htf filter hfilter) hhtf hhtf'

/-! ## Holding slower rows -/

/-- The previous close a decision bar reads has passed by an instant. -/
def Held.PreviousClosed (closedBy : Time) (held : Held) : Prop :=
  ∀ close ∈ held.previous.map Prod.fst, close ≤ closedBy

section

variable {strategy : StrategyDefinition} {closedBy closeAt : Time}
variable {held : Held} {missedPrevious missedLast : String}

section

variable {rows : Dict Time Row} (hrows : RowsAgree closedBy timeframe rows rows')
  (hclose : closeAt ≤ closedBy)
include hrows hclose

/-- The row held at a close comes from a bar closed by then, so both clocks hold it. -/
theorem heldRow_congr {missed : String} :
    heldRow rows closeAt timeframe missed = heldRow rows' closeAt timeframe missed := by
  have hmapped := mappedHtfStart_closed closeAt timeframe
  rw [heldRow, heldRow, hrows _ (le_trans hmapped hclose)]

theorem holdClock_congr (hheld : held.PreviousClosed closedBy) :
    holdClock rows timeframe closeAt missedLast missedPrevious held =
      holdClock rows' timeframe closeAt missedLast missedPrevious held := by
  unfold holdClock
  rw [heldRow_congr hrows hclose]
  refine bind_congr_ok ?_
  intro mapped _
  rcases hprevious : held.previous with _ | ⟨previousClose, previous⟩
  · rfl
  · have hbefore : previousClose ≤ closedBy := hheld previousClose (by simp [hprevious])
    simp only [heldRow_congr hrows hbefore]

end

theorem holdClock_previous {rows : Dict Time Row} {held' : Held}
    (h : holdClock rows timeframe closeAt missedLast missedPrevious held = .ok held')
    (hheld : held.PreviousClosed closedBy) : held'.PreviousClosed closedBy := by
  obtain ⟨mapped, -, h⟩ := bind_eq_ok h
  split at h
  · cases h
    exact fun close hclose => absurd hclose (by simp)
  next previousClose previous hprevious =>
    obtain ⟨mappedPrevious, -, rfl⟩ := bind_pure_ok h
    intro close hclose
    exact hheld close (by simpa [hprevious] using hclose)

theorem overlayExtraRows_congr {rows rows' : List (CandleInterval × Dict Time Row)}
    (hrows : ExtraAgree closedBy rows rows') (hclose : closeAt ≤ closedBy)
    (hheld : held.PreviousClosed closedBy) :
    overlayExtraRows closeAt rows held = overlayExtraRows closeAt rows' held := by
  induction hrows generalizing held with
  | nil => rfl
  | @cons clock clock' rest rest' hclock _ ih =>
    obtain ⟨timeframe, byStart⟩ := clock
    obtain ⟨rfl, hagree⟩ := hclock
    rw [overlayExtraRows, overlayExtraRows, holdClock_congr hagree hclose hheld]
    exact bind_congr_ok (fun next hnext => ih (holdClock_previous hnext hheld))

theorem overlayExtraRows_previous {rows : List (CandleInterval × Dict Time Row)} {held' : Held}
    (h : overlayExtraRows closeAt rows held = .ok held') (hheld : held.PreviousClosed closedBy) :
    held'.PreviousClosed closedBy := by
  induction rows generalizing held with
  | nil => exact Except.ok.inj h ▸ hheld
  | cons _ _ ih =>
    obtain ⟨next, hnext, h⟩ := bind_eq_ok h
    exact ih h (holdClock_previous hnext hheld)

section

variable {rows rows' : List (String × Dict Time Row)}
  (hrows : ReferenceRowsAgree strategy closedBy rows rows')
include hrows

theorem referenceRows_find {reference : ReferenceInstrument}
    (hreference : reference ∈ referenceInstruments strategy) :
    RowsAgree closedBy reference.timeframe
      (((rows.find? (fun entry => entry.1 = reference.id)).map Prod.snd).getD .empty)
      (((rows'.find? (fun entry => entry.1 = reference.id)).map Prod.snd).getD .empty) := by
  induction hrows with
  | nil => exact fun _ _ => rfl
  | @cons entry entry' rest rest' hentry _ ih =>
    by_cases hid : entry.1 = reference.id
    · rw [find?_cons_of_pos (by simpa using hid),
        find?_cons_of_pos (by simpa [← hentry.1] using hid)]
      exact hentry.2 reference hreference hid.symm
    · rw [find?_cons_of_neg (by simpa using hid),
        find?_cons_of_neg (by simpa [← hentry.1] using hid)]
      exact ih

theorem overlayReferenceRows_congr {groups : List (ReferenceInstrument × List IndicatorDefinition)}
    (hgroups : ∀ group ∈ groups, group.1 ∈ referenceInstruments strategy)
    (hclose : closeAt ≤ closedBy) (hheld : held.PreviousClosed closedBy) :
    overlayReferenceRows closeAt rows groups held =
      overlayReferenceRows closeAt rows' groups held := by
  induction groups generalizing held with
  | nil => rfl
  | cons group _ ih =>
    obtain ⟨reference, indicators⟩ := group
    have hfound := referenceRows_find hrows (hgroups (reference, indicators) (by simp))
    rw [overlayReferenceRows, overlayReferenceRows]
    simp only [holdClock_congr hfound hclose hheld]
    exact bind_congr_ok (fun next hnext => ih (fun other hother => hgroups other (by simp [hother]))
      (holdClock_previous hnext hheld))

end

variable {slower' slower : SlowerRows} (hslower : slower.Agree strategy closedBy slower')
  (hclose : closeAt ≤ closedBy)
include hslower hclose

theorem overlayIndicatorTimeframeValues_congr (hheld : held.PreviousClosed closedBy) :
    overlayIndicatorTimeframeValues strategy closeAt slower.extra slower.reference held =
      overlayIndicatorTimeframeValues strategy closeAt slower'.extra slower'.reference held := by
  unfold overlayIndicatorTimeframeValues
  rw [overlayExtraRows_congr hslower.extra hclose hheld]
  refine bind_congr_ok ?_
  intro next hnext
  refine overlayReferenceRows_congr hslower.reference ?_ hclose
    (overlayExtraRows_previous hnext hheld)
  intro group hgroup
  obtain ⟨reference, hreference, rfl⟩ := mem_map.mp hgroup
  exact hreference

theorem htfFilterOutcome_congr {previousClose : Option Time}
    (hprevious : ∀ close ∈ previousClose, close ≤ closedBy) :
    htfFilterOutcome strategy closeAt previousClose slower.htf =
      htfFilterOutcome strategy closeAt previousClose slower'.htf := by
  unfold htfFilterOutcome
  cases hfilter : strategy.htfFilter with
  | none => rfl
  | some filter =>
    have hrows := hslower.htf filter hfilter
    simp only [heldRow_congr hrows hclose]
    refine bind_congr_ok ?_
    intro current _
    cases previousClose with
    | none => rfl
    | some close => simp only [heldRow_congr hrows (hprevious close rfl)]

end

/-! ## Records -/

section

variable {strategy : StrategyDefinition} {closedBy startsAt : Time} {slower slower' : SlowerRows}

/-- A bar closes on the decision clock by an instant. -/
def BarClosed (strategy : StrategyDefinition) (closedBy start : Time) : Prop :=
  start + strategy.timeframe.duration ≤ closedBy

instance (strategy : StrategyDefinition) (closedBy : Time) :
    DecidablePred (BarClosed strategy closedBy) :=
  fun start => inferInstanceAs (Decidable (start + strategy.timeframe.duration ≤ closedBy))

variable {bar : Candle × Row}

theorem signalRecord_congr (hslower : slower.Agree strategy closedBy slower')
    (hclosed : BarClosed strategy closedBy bar.1.startsAt)
    (hprevious : ∀ before ∈ previous, BarClosed strategy closedBy before.1.startsAt) :
    signalRecord strategy slower previous bar = signalRecord strategy slower' previous bar := by
  have hheld : Held.PreviousClosed closedBy ⟨bar.2, previous.map (fun previous =>
      (ltfClose previous.1.startsAt strategy.timeframe, previous.2))⟩ := by
    intro close hclose
    simp only [Option.map_map, Option.mem_def, Option.map_eq_some_iff, Function.comp_apply] at hclose
    obtain ⟨before, hbefore, rfl⟩ := hclose
    exact hprevious before hbefore
  have hcloses : ∀ close ∈ previous.map (fun previous =>
      ltfClose previous.1.startsAt strategy.timeframe), close ≤ closedBy := by
    intro close hclose
    obtain ⟨before, hbefore, rfl⟩ := Option.map_eq_some_iff.mp hclose
    exact hprevious before hbefore
  have hclose : ltfClose bar.1.startsAt strategy.timeframe ≤ closedBy := hclosed
  unfold signalRecord
  simp only [overlayIndicatorTimeframeValues_congr hslower hclose hheld,
    htfFilterOutcome_congr hslower hclose hcloses]

theorem signalRecord_startsAt {record : SignalTraceRecord}
    (h : signalRecord strategy slower previous bar = .ok record) :
    record.candleStartsAt = bar.1.startsAt := by
  obtain ⟨held, -, h⟩ := bind_eq_ok h
  obtain ⟨⟨outcome, values⟩, -, rfl⟩ := bind_pure_ok h
  rfl

theorem signalRecords_matches {previous' : Option (Candle × Row)} {bars bars' : List (Candle × Row)}
    {records records' : List SignalTraceRecord} (hslower : slower.Agree strategy closedBy slower')
    (hbars : Matches (fun bar : Candle × Row => bar.1.startsAt) (BarClosed strategy closedBy) bars
      bars')
    (hordered : (bars.map (fun bar => bar.1.startsAt)).Pairwise (fun a b => BarClosed strategy
      closedBy b → BarClosed strategy closedBy a))
    (hprevious : ∀ bar ∈ bars, BarClosed strategy closedBy bar.1.startsAt → previous = previous' ∧ ∀
      before ∈ previous, BarClosed strategy closedBy before.1.startsAt)
    (h : signalRecords strategy slower startsAt previous bars = .ok records)
    (h' : signalRecords strategy slower' startsAt previous' bars' = .ok records') :
    Matches (·.candleStartsAt) (BarClosed strategy closedBy) records records' := by
  induction hbars generalizing previous previous' records records' with
  | nil =>
    cases h
    cases h'
    exact .nil
  | @cons bar bar' bars bars' hbar _ ih =>
    rw [map_cons, pairwise_cons] at hordered
    -- a closed bar among the rest makes this one closed, hence shared
    have hnext : ∀ later ∈ bars, BarClosed strategy closedBy later.1.startsAt →
        some bar = some bar' ∧
          ∀ before ∈ some bar, BarClosed strategy closedBy before.1.startsAt := by
      intro later hlater hclosed
      have hthis := hordered.1 later.1.startsAt (mem_map_of_mem hlater) hclosed
      refine ⟨by rw [hbar.2 hthis], ?_⟩
      rintro _ ⟨⟩
      exact hthis
    have hsame : bar.1.startsAt = bar'.1.startsAt := hbar.1
    rw [signalRecords] at h h'
    rw [← hsame] at h'
    split at h
    next hwarmup =>
      rw [if_pos hwarmup] at h'
      exact ih hordered.2 hnext h h'
    next hwarmup =>
      rw [if_neg hwarmup] at h'
      obtain ⟨record, hrecord, h⟩ := bind_eq_ok h
      obtain ⟨rest, hrest, h⟩ := bind_eq_ok h
      obtain ⟨record', hrecord', h'⟩ := bind_eq_ok h'
      obtain ⟨rest', hrest', h'⟩ := bind_eq_ok h'
      cases h
      cases h'
      have hstart := signalRecord_startsAt hrecord
      have hstart' := signalRecord_startsAt hrecord'
      refine .cons ⟨hstart.trans (hsame.trans hstart'.symm), ?_⟩ (ih hordered.2 hnext hrest hrest')
      intro hclosed
      replace hclosed : BarClosed strategy closedBy bar.1.startsAt := hstart ▸ hclosed
      obtain ⟨rfl, hbefore⟩ := hprevious bar (by simp) hclosed
      obtain rfl := hbar.2 hclosed
      rw [signalRecord_congr hslower hclosed hbefore] at hrecord
      exact Except.ok.inj (hrecord.symm.trans hrecord')

end

variable {strategy : StrategyDefinition}

/-- What an accepted trace was made from. -/
theorem evaluateSignalTrace_inv {candles : ProductCandles}
    (h : evaluateSignalTrace engine specification strategy candles references = .ok trace) :
    ∃ selected slower, requiredCandles specification candles.decision = .ok selected ∧
      slowerRows engine specification strategy candles references = .ok slower ∧
      signalRecords strategy slower specification.evaluation.startsAt none
        (selected.zip (calculateIndicatorRows engine.math (decisionClockIndicators strategy)
          (strategyIndicatorOperands strategy) selected)) = .ok trace.records := by
  obtain ⟨_, -, h⟩ := bind_eq_ok h
  obtain ⟨selected, hselected, h⟩ := bind_eq_ok h
  obtain ⟨slower, hslower, h⟩ := bind_eq_ok h
  obtain ⟨records, hrecords, rfl⟩ := bind_pure_ok h
  exact ⟨selected, slower, hselected, hslower, hrecords⟩

/-- Two accepted traces over candles that agree until an instant match on every decision bar closed
by then. -/
theorem evaluateSignalTrace_matches {first second : ProductCandles} {trace' : SignalTrace}
    (hcandles : first.AgreeUntil strategy closedBy second)
    (hreferences : ReferencesAgree strategy closedBy references references')
    (h : evaluateSignalTrace engine specification strategy first references = .ok trace)
    (h' : evaluateSignalTrace engine specification strategy second references' = .ok trace') :
    Matches (·.candleStartsAt) (BarClosed strategy closedBy) trace.records trace'.records := by
  obtain ⟨selected, slower, hselected, hslower, hrecords⟩ := evaluateSignalTrace_inv h
  obtain ⟨selected', slower', hselected', hslower', hrecords'⟩ := evaluateSignalTrace_inv h'
  obtain ⟨interval, -, hstarts, -⟩ := requiredCandles_spec hselected
  have hcausal := causal_calculateIndicatorRows engine.math (decisionClockIndicators strategy)
    (strategyIndicatorOperands strategy)
  have hordered : (selected.map (·.startsAt)).Pairwise
      (fun a b => BarClosed strategy closedBy b → BarClosed strategy closedBy a) := by
    rw [hstarts]
    exact closed_ordered (decisionStarts_increasing specification interval) closedBy _
  have hbars := (requiredCandles_matches hcandles.decision hselected hselected').zip_causal
    hcausal hordered
  refine signalRecords_matches (slowerRows_agree hcandles hreferences hslower hslower') hbars ?_ ?_
    hrecords hrecords'
  · -- the rows beside the candles do not move their starts
    have hfirst : (selected.zip (calculateIndicatorRows engine.math
        (decisionClockIndicators strategy) (strategyIndicatorOperands strategy) selected)).map
          Prod.fst = selected := map_fst_zip (by rw [hcausal.length_eq])
    rw [← hfirst, map_map] at hordered
    exact hordered
  · exact fun _ _ _ => ⟨rfl, by simp⟩

end Thytrader.Evaluation
