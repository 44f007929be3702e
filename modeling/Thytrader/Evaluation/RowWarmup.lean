import Mathlib.Data.List.TakeWhile
import Thytrader.Evaluation.IndicatorWarmup

/-!
# Warmup of the indicator rows

From the output series to the rows a condition reads: the outputs of an indicator under its
own keys, the declared lag, the rows of all indicators of one clock, and the lagged reads of the
operands. A key belongs to one indicator, so no indicator overwrites another one's value.
-/

namespace Thytrader.Evaluation

open Lib MarketData Strategies List Dict

variable {operand : IndicatorOperand}

def entryAt (rows : List Row) (bar : Nat) (key : String) : Option (Option Decimal) :=
  rows[bar]?.bind (fun row => row.get? key)

def readRow (rows : List Row) (bar : Nat) (key : String) : Option Decimal :=
  (entryAt rows bar key).join

/-! ## Keys -/

variable (rule : IndicatorRule) (names : List String)

theorem nodup_outputNames (h : indicatorOutputSeries rule = some names) : names.Nodup := by
  cases rule <;> simp only [indicatorOutputSeries, Option.some.injEq, reduceCtorEq] at h <;>
    subst h <;> decide

theorem nodup_indicatorValueKeys (indicator : IndicatorDefinition) :
    (indicatorValueKeys indicator).Nodup := by
  unfold indicatorValueKeys
  cases hnames : indicatorOutputSeries indicator.rule with
  | none => exact nodup_singleton _
  | some names =>
    refine (nodup_outputNames indicator.rule names hnames).map ?_
    intro first second hequal
    exact (String.append_right_inj _).mp hequal

theorem length_indicatorValueKeys (math : DecimalMath) (indicator : IndicatorDefinition) :
    (indicatorValueKeys indicator).length = (indicatorOutputs math indicator.rule).length := by
  unfold indicatorValueKeys
  cases indicator.rule <;> rfl

/-! ## The outputs of one indicator -/

variable {key : String}

section

variable {rows : List Row} {bar : Nat}

theorem entryAt_assignSeries {series : Series} (hlength : rows.length = series.length)
    (other : String) : entryAt (assignSeries key rows series) bar other =
      if other = key then series[bar]? else entryAt rows bar other := by
  unfold entryAt assignSeries
  rw [getElem?_zipWith]
  by_cases hbar : bar < rows.length
  · rw [getElem?_eq_getElem hbar, getElem?_eq_getElem (hlength ▸ hbar)]
    simp only [Option.bind_some, get?_set]
  · rw [getElem?_eq_none (by omega), getElem?_eq_none (by omega)]
    simp

variable {outputs : List (String × (List Candle → Series))} {candles : List Candle}

section

variable (hcausal : ∀ output ∈ outputs, (output.2 candles).length = candles.length)
include hcausal

theorem entryAt_foldl_of_not_mem
    (hlength : rows.length = candles.length) (hkey : key ∉ outputs.map Prod.fst) :
    entryAt (outputs.foldl (fun rows output => assignSeries output.1 rows (output.2 candles)) rows)
      bar key = entryAt rows bar key := by
  induction outputs generalizing rows with
  | nil => rfl
  | cons output _ ih =>
    have hassigned : (assignSeries output.1 rows (output.2 candles)).length = candles.length := by
      simp [assignSeries, hlength, hcausal output (by simp)]
    rw [map_cons, mem_cons, not_or] at hkey
    rw [foldl_cons, ih (fun other hother => hcausal other (by simp [hother])) hassigned hkey.2,
      entryAt_assignSeries (by rw [hlength, hcausal output (by simp)]), if_neg hkey.1]

theorem entryAt_foldl
    (hnodup : (outputs.map Prod.fst).Nodup) (hlength : rows.length = candles.length)
    {output : String × (List Candle → Series)} (houtput : output ∈ outputs) :
    entryAt (outputs.foldl (fun rows output => assignSeries output.1 rows (output.2 candles)) rows)
      bar output.1 = (output.2 candles)[bar]? := by
  induction outputs generalizing rows with
  | nil => cases houtput
  | cons first rest ih =>
    have hrest : ∀ other ∈ rest, (other.2 candles).length = candles.length :=
      fun other hother => hcausal other (by simp [hother])
    have hassigned : (assignSeries first.1 rows (first.2 candles)).length = candles.length := by
      simp [assignSeries, hlength, hcausal first (by simp)]
    rw [map_cons, nodup_cons] at hnodup
    rw [foldl_cons]
    rcases mem_cons.mp houtput with rfl | houtput
    · rw [entryAt_foldl_of_not_mem hrest hassigned hnodup.1,
        entryAt_assignSeries (by rw [hlength, hcausal output (by simp)]), if_pos rfl]
    · exact ih hrest hnodup.2 hassigned houtput

end

/-- A lagged row holds the entries of an earlier bar, or the filler's. -/
theorem entryAt_lag (bars : Nat) (filler : Row) (hbar : bar < rows.length) (key : String) :
    entryAt (lag bars filler rows) bar key =
      if bar < bars then filler.get? key else entryAt rows (bar - bars) key := by
  unfold entryAt lag
  by_cases hearly : bar < bars
  · rw [getElem?_append_left (by simp; omega), getElem?_replicate_of_lt (by omega),
      if_pos hearly]
    rfl
  · rw [getElem?_append_right (by simp; omega), length_replicate,
      getElem?_take_of_lt (by omega), if_neg hearly, show bar - min bars rows.length = bar - bars
        by omega]

theorem entryAt_update {others : List Row} (hlength : rows.length = others.length) (key : String) :
    entryAt (List.zipWith update rows others) bar key =
      (entryAt others bar key).or (entryAt rows bar key) := by
  unfold entryAt
  rw [getElem?_zipWith]
  by_cases hbar : bar < rows.length
  · rw [getElem?_eq_getElem hbar, getElem?_eq_getElem (hlength ▸ hbar)]
    exact get?_update _ _ _
  · rw [getElem?_eq_none (by omega), getElem?_eq_none (by omega)]
    rfl

end

theorem join_isSome_iff {series : Series} {bar : Nat} :
    ((series[bar]?).join).isSome ↔ Defined series bar := by
  simp [Defined, Option.isSome_iff_exists, Option.join_eq_some_iff]

section

variable (math : DecimalMath) (indicator : IndicatorDefinition) (candles : List Candle) {bar : Nat}
  {output : List Candle → Series}

theorem length_output (h : output ∈ indicatorOutputs math indicator.rule) :
    (output candles).length = candles.length :=
  ((forall_iff_forall_mem.mp (causal_indicatorOutputs math indicator.rule)) output h).length_eq
    candles

theorem exists_output_of_key (h : key ∈ indicatorValueKeys indicator) :
    ∃ output, (key, output) ∈ (indicatorValueKeys indicator).zip
      (indicatorOutputs math indicator.rule) := by
  rw [← map_fst_zip (length_indicatorValueKeys math indicator).le] at h
  obtain ⟨⟨_, output⟩, hmem, rfl⟩ := mem_map.mp h
  exact ⟨output, hmem⟩

theorem exists_key_of_output (h : output ∈ indicatorOutputs math indicator.rule) :
    ∃ key, (key, output) ∈ (indicatorValueKeys indicator).zip
      (indicatorOutputs math indicator.rule) := by
  rw [← map_snd_zip (length_indicatorValueKeys math indicator).ge] at h
  obtain ⟨⟨key, _⟩, hmem, rfl⟩ := mem_map.mp h
  exact ⟨key, hmem⟩

/-- The entries of the rows before the lag: each key holds one output, nothing else. -/
theorem entryAt_unlaggedKeyedValues (bar : Nat) :
    (∀ output ∈ (indicatorValueKeys indicator).zip (indicatorOutputs math indicator.rule),
      entryAt (unlaggedKeyedValues math indicator candles) bar output.1 =
        (output.2 candles)[bar]?) ∧
      ∀ key ∉ indicatorValueKeys indicator,
        entryAt (unlaggedKeyedValues math indicator candles) bar key = none := by
  have hlengths := length_indicatorValueKeys math indicator
  have hkeys : ((indicatorValueKeys indicator).zip (indicatorOutputs math indicator.rule)).map
      Prod.fst = indicatorValueKeys indicator := map_fst_zip hlengths.le
  have hcausal : ∀ output ∈ (indicatorValueKeys indicator).zip (indicatorOutputs math indicator.rule),
      (output.2 candles).length = candles.length :=
    fun output houtput => length_output math indicator candles (of_mem_zip houtput).2
  constructor
  · intro output houtput
    exact entryAt_foldl hcausal (by rw [hkeys]; exact nodup_indicatorValueKeys indicator) (by simp)
      houtput
  · intro key hkey
    rw [unlaggedKeyedValues, entryAt_foldl_of_not_mem hcausal (by simp) (by rwa [hkeys])]
    unfold entryAt
    rw [getElem?_map]
    cases candles[bar]? <;> rfl

theorem get?_fromKeys_none (keys : List String) (key : String) :
    (fromKeys keys (none : Option Decimal)).get? key = if key ∈ keys then some none else none := by
  have hfold (d : Row) : (keys.foldl (fun d key => d.set key none) d).get? key =
      if key ∈ keys then some none else d.get? key := by
    induction keys generalizing d with
    | nil => rfl
    | cons first rest ih =>
      rw [foldl_cons, ih, get?_set]
      by_cases hrest : key ∈ rest
      · simp [hrest]
      · by_cases hfirst : key = first <;> simp [hrest, hfirst]
  exact hfold .empty

theorem entryAt_keyed_isSome (hbar : bar < candles.length) (key : String) :
    (entryAt (keyedIndicatorValues math indicator candles) bar key).isSome ↔
      key ∈ indicatorValueKeys indicator := by
  obtain ⟨hheld, hother⟩ := entryAt_unlaggedKeyedValues math indicator candles
    (bar - indicatorOffset indicator)
  have hlength := (causal_unlaggedKeyedValues math indicator).length_eq candles
  rw [keyedIndicatorValues, entryAt_lag _ _ (by omega)]
  split
  · rw [get?_fromKeys_none]
    split <;> simp_all
  · constructor
    · intro hsome
      by_contra hkey
      rw [hother key hkey] at hsome
      cases hsome
    · intro hkey
      obtain ⟨output, hpair⟩ := exists_output_of_key math indicator hkey
      have hcausal := length_output math indicator candles (of_mem_zip hpair).2
      rw [hheld _ hpair, getElem?_eq_getElem (show _ < (output candles).length by omega)]
      rfl

/-- Its outputs have a value from the declared warmup on, unless a zero denominator lies among the
last warmup bars, and before it one of them has none. -/
theorem keyedIndicatorValues_warmup (hpositive : PositivePrices candles)
    (hbar : bar < candles.length) :
    (indicatorMinWarmup indicator ≤ bar + 1 →
      Regular math candles indicator.rule (indicatorMinWarmup indicator) bar →
      ∀ key ∈ indicatorValueKeys indicator,
        (readRow (keyedIndicatorValues math indicator candles) bar key).isSome) ∧
      (bar + 1 < indicatorMinWarmup indicator → ∃ key ∈ indicatorValueKeys indicator,
        readRow (keyedIndicatorValues math indicator candles) bar key = none) := by
  obtain ⟨hheld, -⟩ := entryAt_unlaggedKeyedValues math indicator candles
    (bar - indicatorOffset indicator)
  have hlength := (causal_unlaggedKeyedValues math indicator).length_eq candles
  -- past the lag a row is the row of an earlier bar
  have hlagged (hlate : ¬ bar < indicatorOffset indicator) (key : String) :
      readRow (keyedIndicatorValues math indicator candles) bar key =
        (entryAt (unlaggedKeyedValues math indicator candles)
          (bar - indicatorOffset indicator) key).join := by
    rw [readRow, keyedIndicatorValues, entryAt_lag _ _ (by omega), if_neg hlate]
  have houtputs := @indicatorOutputs_warmed math candles hpositive indicator.rule
  obtain ⟨blank, hblank, hearly⟩ := houtputs.blank
  constructor
  · intro hwarm hregular key hkey
    unfold indicatorMinWarmup at hwarm hregular
    have hdefined := houtputs.defined
      (bar - indicatorOffset indicator) (by omega) (by
        omega) (fun earlier hle hnear => hregular earlier (by omega) (by omega))
    obtain ⟨output, hpair⟩ := exists_output_of_key math indicator hkey
    have hpos : 1 ≤ baseMinWarmup indicator.rule := baseMinWarmup_pos indicator.rule
    rw [hlagged (by omega), hheld _ hpair]
    exact join_isSome_iff.mpr (forall_iff_forall_mem.mp hdefined output (of_mem_zip hpair).2)
  · intro hcold
    unfold indicatorMinWarmup at hcold
    obtain ⟨key, hpair⟩ := exists_key_of_output math indicator hblank
    refine ⟨key, (of_mem_zip hpair).1, ?_⟩
    by_cases hlate : bar < indicatorOffset indicator
    · rw [readRow, keyedIndicatorValues, entryAt_lag _ _ (by omega), if_pos hlate,
        get?_fromKeys_none, if_pos (of_mem_zip hpair).1]
      rfl
    · rw [hlagged hlate, hheld _ hpair]
      have hnone := hearly (bar - indicatorOffset indicator) (by omega)
      rwa [← join_isSome_iff, Option.not_isSome_iff_eq_none] at hnone

end

/-! ## Keys of several indicators -/

/-- The identifier pattern `^[a-z][a-z0-9_]{0,63}$`. -/
def validIdentifier (id : String) : Bool :=
  match id.toList with
  | [] => false
  | first :: rest =>
    ('a' ≤ first && first ≤ 'z') && decide (rest.length ≤ 63) &&
      rest.all (fun c => ('a' ≤ c && c ≤ 'z') || ('0' ≤ c && c ≤ '9') || c = '_')

variable {id : String}

theorem validIdentifier_char (h : validIdentifier id) {c : Char} (hc : c ∈ id.toList) :
    c ≠ '.' ∧ c ≠ '@' := by
  unfold validIdentifier at h
  cases hid : id.toList with
  | nil => rw [hid] at hc; cases hc
  | cons =>
    rw [hid] at h hc
    simp only [Bool.and_eq_true, all_eq_true, Bool.or_eq_true, decide_eq_true_eq] at h
    obtain ⟨⟨⟨hlow, -⟩, -⟩, hrest⟩ := h
    rcases mem_cons.mp hc with rfl | hc
    · constructor
      · rintro rfl
        exact absurd hlow (by decide)
      · rintro rfl
        exact absurd hlow (by decide)
    · have hclass := hrest c hc
      constructor
      · rintro rfl
        exact absurd hclass (by decide)
      · rintro rfl
        exact absurd hclass (by decide)

/-- The part of a key before its first dot or lag mark. -/
def keyOwner (key : String) : List Char := key.toList.takeWhile (fun c => c ≠ '.' ∧ c ≠ '@')

theorem keyOwner_self (hid : validIdentifier id) : keyOwner id = id.toList :=
  takeWhile_eq_self_iff.mpr (fun c hc => by simpa using validIdentifier_char hid hc)

theorem keyOwner_append (hid : validIdentifier id) {separator : Char}
    (hseparator : separator = '.' ∨ separator = '@') {tail : String} {rest : List Char}
    (htail : tail.toList = separator :: rest) : keyOwner (id ++ tail) = id.toList := by
  have hplain : ∀ c ∈ id.toList, decide (c ≠ '.' ∧ c ≠ '@') = true :=
    fun c hc => by simpa using validIdentifier_char hid hc
  rw [keyOwner, String.toList_append, takeWhile_append_of_pos hplain, htail]
  rcases hseparator with rfl | rfl <;> simp

variable {indicator : IndicatorDefinition}

theorem key_owner (hid : validIdentifier indicator.id) (hkey : key ∈ indicatorValueKeys indicator) :
    keyOwner key = indicator.id.toList := by
  unfold indicatorValueKeys at hkey
  cases hnames : indicatorOutputSeries indicator.rule with
  | none =>
    rw [hnames] at hkey
    obtain rfl := mem_singleton.mp hkey
    exact keyOwner_self hid
  | some =>
    rw [hnames] at hkey
    obtain ⟨name, -, rfl⟩ := mem_map.mp hkey
    rw [String.append_assoc]
    exact keyOwner_append hid (.inl rfl) (String.toList_append)

theorem keyOwner_operand (hid : validIdentifier operand.indicator) :
    keyOwner (operandValueKey operand) = operand.indicator.toList := by
  unfold operandValueKey
  cases operand.series with
  | none =>
    cases operand.offset with
    | none => exact keyOwner_self hid
    | some =>
      simp only [String.append_assoc]
      exact keyOwner_append hid (.inr rfl) (String.toList_append)
  | some =>
    cases operand.offset with
    | none | some =>
      simp only [String.append_assoc]
      exact keyOwner_append hid (.inl rfl) (String.toList_append)

theorem no_at_in_names (h : indicatorOutputSeries rule = some names) :
    ∀ name ∈ names, '@' ∉ name.toList := by
  cases rule <;> simp only [indicatorOutputSeries, Option.some.injEq, reduceCtorEq] at h <;>
    subst h <;> decide

theorem no_at_in_key (hid : validIdentifier indicator.id)
    (hkey : key ∈ indicatorValueKeys indicator) : '@' ∉ key.toList := by
  have hplain : '@' ∉ indicator.id.toList := fun hc => (validIdentifier_char hid hc).2 rfl
  unfold indicatorValueKeys at hkey
  cases hnames : indicatorOutputSeries indicator.rule with
  | none =>
    rw [hnames] at hkey
    obtain rfl := mem_singleton.mp hkey
    exact hplain
  | some =>
    rw [hnames] at hkey
    obtain ⟨name, hname, rfl⟩ := mem_map.mp hkey
    simp [hplain, no_at_in_names _ _ hnames name hname]

theorem at_in_lagged_key (h : operand.offset ≠ none) : '@' ∈ (operandValueKey operand).toList := by
  unfold operandValueKey
  cases hoffset : operand.offset with
  | none => exact absurd hoffset h
  | some =>
    simp

/-- `_require_operand_series`: a series of a multi-output kind, none of a single-output one. -/
def requireOperandSeries (operand : IndicatorOperand) (indicator : IndicatorDefinition) : Bool :=
  match indicatorOutputSeries indicator.rule with
  | none => operand.series.isNone
  | some names => operand.series.any (· ∈ names)

theorem mem_indicatorValueKeys_of_operand (hid : operand.indicator = indicator.id)
    (h : requireOperandSeries operand indicator) :
    operandValueKey { operand with offset := none } ∈ indicatorValueKeys indicator := by
  unfold requireOperandSeries at h
  unfold operandValueKey indicatorValueKeys
  cases hnames : indicatorOutputSeries indicator.rule with
  | none =>
    rw [hnames] at h
    have hseries : operand.series = none := by simpa using h
    simp [hseries, hid]
  | some names =>
    rw [hnames] at h
    cases hseries : operand.series with
    | none => rw [hseries] at h; cases h
    | some name =>
      rw [hseries] at h
      have hname : name ∈ names := by simpa using h
      simpa [hid] using hname

/-! ## The rows of one clock -/

variable (math : DecimalMath) {indicators : List IndicatorDefinition} {candles : List Candle}
  {bar : Nat}

def indicatorRows (math : DecimalMath) (indicators : List IndicatorDefinition)
    (candles : List Candle) (rows : List Row) : List Row :=
  indicators.foldl (fun rows indicator =>
    List.zipWith update rows (keyedIndicatorValues math indicator candles)) rows

theorem length_indicatorRows (indicators : List IndicatorDefinition) {rows : List Row} (hlength : rows.length = candles.length) :
    (indicatorRows math indicators candles rows).length = candles.length := by
  induction indicators generalizing rows with
  | nil => exact hlength
  | cons indicator _ ih =>
    have hkeyed := (causal_keyedIndicatorValues math indicator).length_eq candles
    exact ih (by rw [length_zipWith, hlength, hkeyed, Nat.min_self])

section

variable {rows : List Row} (hlength : rows.length = candles.length) (hbar : bar < candles.length)
include hlength hbar

theorem entryAt_indicatorRows_of_not_mem
    (hkey : ∀ indicator ∈ indicators, key ∉ indicatorValueKeys indicator) :
    entryAt (indicatorRows math indicators candles rows) bar key = entryAt rows bar key := by
  induction indicators generalizing rows with
  | nil => rfl
  | cons indicator _ ih =>
    have hkeyed := (causal_keyedIndicatorValues math indicator).length_eq candles
    have hnone : entryAt (keyedIndicatorValues math indicator candles) bar key = none := by
      have h := mt (entryAt_keyed_isSome math indicator candles hbar key).mp
        (hkey indicator (by simp))
      rwa [Option.not_isSome_iff_eq_none] at h
    rw [indicatorRows, foldl_cons, ← indicatorRows,
      ih (by rw [length_zipWith, hlength, hkeyed, Nat.min_self])
        (fun other hother => hkey other (by simp [hother])),
      entryAt_update (by rw [hlength, hkeyed]), hnone, Option.none_or]

theorem entryAt_indicatorRows (hnodup : (indicators.map (·.id)).Nodup)
    (hids : ∀ indicator ∈ indicators, validIdentifier indicator.id)
    (hindicator : indicator ∈ indicators) (hkey : key ∈ indicatorValueKeys indicator) :
    entryAt (indicatorRows math indicators candles rows) bar key =
      entryAt (keyedIndicatorValues math indicator candles) bar key := by
  induction indicators generalizing rows with
  | nil => cases hindicator
  | cons first rest ih =>
    have hkeyed := (causal_keyedIndicatorValues math first).length_eq candles
    have hupdated : (List.zipWith update rows (keyedIndicatorValues math first candles)).length =
        candles.length := by rw [length_zipWith, hlength, hkeyed, Nat.min_self]
    rw [map_cons, nodup_cons] at hnodup
    rw [indicatorRows, foldl_cons, ← indicatorRows]
    rcases mem_cons.mp hindicator with rfl | hindicator
    · -- no later indicator has this key: the part before the dot would be its id
      have hlater : ∀ other ∈ rest, key ∉ indicatorValueKeys other := by
        intro other hother hmem
        have hsame : other.id = indicator.id := by
          apply String.toList_inj.mp
          rw [← key_owner (hids other (by simp [hother])) hmem, key_owner (hids indicator (by simp)) hkey]
        exact hnodup.1 (hsame ▸ mem_map_of_mem hother)
      obtain ⟨entry, hentry⟩ := Option.isSome_iff_exists.mp
        ((entryAt_keyed_isSome math indicator candles hbar key).mpr hkey)
      rw [entryAt_indicatorRows_of_not_mem math hupdated hbar hlater,
        entryAt_update (by rw [hlength, hkeyed]), hentry, Option.some_or]
    · exact ih hupdated hnodup.2 (fun other hother => hids other (by simp [hother])) hindicator

end

structure LagsRead (known : List IndicatorDefinition) (base rows : List Row) (bar : Nat)
    (done : List IndicatorOperand) : Prop where
  length : rows.length = base.length
  kept : ∀ indicator ∈ known, ∀ key ∈ indicatorValueKeys indicator, ∀ earlier,
    entryAt rows earlier key = entryAt base earlier key
  read : ∀ operand ∈ done, operand.offset ≠ none → operand.indicator ∈ known.map (·.id) →
    (readRow rows bar (operandValueKey operand)).isSome

/-- The base value of an operand, as many bars earlier as it asks for. -/
def BaseRead (base : List Row) (bar : Nat) (operand : IndicatorOperand) : Prop :=
  ∀ offset ∈ operand.offset, offset.value ≤ bar ∧
    (readRow base (bar - offset.value) (operandValueKey { operand with offset := none })).isSome

section

variable {known : List IndicatorDefinition} {base rows : List Row} {done : List IndicatorOperand}
  (h : LagsRead known base rows bar done)
include h

/-- An operand without a lag, or of no known indicator, writes no lag. -/
theorem LagsRead.skip
    (hskip : ¬(operand.offset ≠ none ∧ operand.indicator ∈ known.map (·.id))) :
    LagsRead known base (addOperandLag (known.map (·.id)) rows operand) bar (done ++ [operand]) := by
  have hrows : addOperandLag (known.map (·.id)) rows operand = rows := by
    unfold addOperandLag
    split
    · rfl
    next offset hoffset =>
      exact if_neg fun hknown => hskip ⟨by simp [hoffset], hknown⟩
  rw [hrows]
  refine ⟨h.length, h.kept, forall_mem_append.mpr ⟨h.read, forall_mem_singleton.mpr ?_⟩⟩
  intro hlagged hmember
  exact absurd ⟨hlagged, hmember⟩ hskip

theorem LagsRead.step
    (hids : ∀ indicator ∈ known, validIdentifier indicator.id) (hbar : bar < base.length)
    (hoperand : ∀ indicator ∈ known, operand.indicator = indicator.id → requireOperandSeries
      operand indicator ∧ BaseRead base bar operand) :
    LagsRead known base (addOperandLag (known.map (·.id)) rows operand) bar (done ++ [operand]) := by
  by_cases hread : operand.offset ≠ none ∧ operand.indicator ∈ known.map (·.id)
  · obtain ⟨hlagged, hknown⟩ := hread
    obtain ⟨offset, hoffset⟩ := Option.ne_none_iff_exists'.mp hlagged
    obtain ⟨indicator, hindicator, hid⟩ := mem_map.mp hknown
    obtain ⟨hseries, hbase⟩ := hoperand indicator hindicator hid.symm
    obtain ⟨hlag, hvalue⟩ := hbase offset hoffset
    have hkey := mem_indicatorValueKeys_of_operand hid.symm hseries
    have hrows : addOperandLag (known.map (·.id)) rows operand =
        assignSeries (operandValueKey operand) rows (lag offset.value none (rows.map (fun row =>
          Row.value row (operandValueKey { operand with offset := none })))) := by
      unfold addOperandLag
      rw [hoffset]
      simp only [if_pos hknown]
    have hlength : (lag offset.value none (rows.map (fun row =>
        Row.value row (operandValueKey { operand with offset := none })))).length = rows.length := by
      rw [(causal_lag _ _).length_eq, length_map]
    -- the value written at the bar is the base value of an earlier bar
    have hwritten : (entryAt (addOperandLag (known.map (·.id)) rows operand) bar
        (operandValueKey operand)).join.isSome := by
      rw [hrows, entryAt_assignSeries hlength.symm, if_pos rfl, lag,
        getElem?_append_right (by simp; omega), length_replicate,
        getElem?_take_of_lt (by have := h.length; simp; omega), getElem?_map,
        length_map]
      have hindex : bar - min offset.value rows.length = bar - offset.value := by
        have := h.length
        omega
      have hsame := h.kept indicator hindicator _ hkey (bar - offset.value)
      rw [readRow, ← hsame, entryAt] at hvalue
      rw [hindex]
      cases hrow : rows[bar - offset.value]? with
      | none => rw [hrow] at hvalue; cases hvalue
      | some => rw [hrow] at hvalue; exact hvalue
    refine ⟨?_, ?_, ?_⟩
    · rw [hrows, assignSeries, length_zipWith, hlength, Nat.min_self, h.length]
    · intro other hother key hmem earlier
      rw [hrows, entryAt_assignSeries hlength.symm, if_neg, h.kept other hother key hmem earlier]
      rintro rfl
      exact no_at_in_key (hids other hother) hmem (at_in_lagged_key (by simp [hoffset]))
    · intro other hother hlagged hmember
      by_cases hsame : operandValueKey other = operandValueKey operand
      · rw [readRow, hsame]
        exact hwritten
      · rcases mem_append.mp hother with hother | hother
        · rw [readRow, hrows, entryAt_assignSeries hlength.symm, if_neg hsame]
          exact h.read other hother hlagged hmember
        · exact absurd (congrArg operandValueKey (mem_singleton.mp hother)) hsame
  · exact h.skip hread

end

theorem start_le_foldl_max (values : List Nat) (start : Nat) : start ≤ values.foldl max start := by
  induction values generalizing start with
  | nil => exact le_rfl
  | cons first _ ih => exact (le_max_left start first).trans (ih (max start first))

theorem le_foldl_max {values : List Nat} {value : Nat} (h : value ∈ values) (start : Nat) :
    value ≤ values.foldl max start := by
  induction values generalizing start with
  | nil => cases h
  | cons first rest ih =>
    rcases mem_cons.mp h with rfl | h
    · exact (le_max_right start value).trans (start_le_foldl_max rest (max start value))
    · exact ih h (max start first)

variable (updates : Decimal → Nat)

theorem indicatorMinWarmup_le_convergence (indicator : IndicatorDefinition) :
    indicatorMinWarmup indicator ≤ indicatorConvergenceWarmup updates indicator := by
  refine Nat.add_le_add_right ?_ _
  cases indicator.rule <;> simp only [baseMinWarmup, baseConvergenceWarmup] <;> omega

variable {operands : List IndicatorOperand}

theorem extraIndicatorTimeframeWarmup_covers (convergence : Bool)
    (hindicator : indicator ∈ indicators) (hoperand : operand ∈ operands)
    (hid : operand.indicator = indicator.id) :
    indicatorMinWarmup indicator + operand.offset.elim 0 (·.value) ≤
      extraIndicatorTimeframeWarmup updates indicators operands convergence := by
  have hlag : operand.offset.elim 0 (·.value) ≤ largestOperandLag operands indicator := by
    have hreads : operand ∈ operands.filter (fun operand => operand.indicator = indicator.id) :=
      mem_filter.mpr ⟨hoperand, by simpa using hid⟩
    exact le_foldl_max (mem_map_of_mem (f := fun operand => operand.offset.elim 0 (·.value))
      hreads) 0
  have hwarm : indicatorMinWarmup indicator ≤ (if convergence
      then indicatorConvergenceWarmup updates indicator else indicatorMinWarmup indicator) := by
    split
    · exact indicatorMinWarmup_le_convergence updates indicator
    · exact le_rfl
  refine (Nat.add_le_add hwarm hlag).trans ?_
  have hmem := mem_map_of_mem (f := fun indicator => (if convergence
    then indicatorConvergenceWarmup updates indicator else indicatorMinWarmup indicator) +
      largestOperandLag operands indicator) hindicator
  unfold extraIndicatorTimeframeWarmup
  dsimp only
  generalize indicators.map _ = warmups at hmem ⊢
  cases warmups with
  | nil => cases hmem
  | cons first rest =>
    rcases mem_cons.mp hmem with h | h
    · exact h ▸ start_le_foldl_max rest _
    · exact le_foldl_max h first

def NonDegenerate (indicators : List IndicatorDefinition) (candles : List Candle) : Prop :=
  ∀ indicator ∈ indicators, ∀ bar, ¬ ZeroDenominator math candles bar indicator.rule

/-- Once the warmup of the clock is over, every operand that reads one of its indicators has a
value. -/
theorem calculateIndicatorRows_read {operands : List IndicatorOperand}
    (hnodup : (indicators.map (·.id)).Nodup)
    (hids : ∀ indicator ∈ indicators, validIdentifier indicator.id)
    (hseries : ∀ operand ∈ operands, ∀ indicator ∈ indicators, operand.indicator = indicator.id →
      requireOperandSeries operand indicator) (hpositive : PositivePrices candles)
    (hregular : NonDegenerate math indicators candles) (hbar : bar < candles.length)
    (hwarm : ∀ operand ∈ operands, ∀ indicator ∈ indicators, operand.indicator = indicator.id →
      indicatorMinWarmup indicator + operand.offset.elim 0 (·.value) ≤ bar + 1)
    (hoperand : operand ∈ operands) (hknown : operand.indicator ∈ indicators.map (·.id)) :
    (readRow (calculateIndicatorRows math indicators operands candles) bar
      (operandValueKey operand)).isSome := by
  have hstart : (candles.map (fun _ => (empty : Row))).length = candles.length := by simp
  have hlength := length_indicatorRows math indicators hstart
  -- every key of an indicator has a value from that indicator's own warmup on
  have hbase (indicator : IndicatorDefinition) (hindicator : indicator ∈ indicators) (key : String)
      (hkey : key ∈ indicatorValueKeys indicator) (earlier : Nat) (hearlier : earlier < candles.length)
      (hover : indicatorMinWarmup indicator ≤ earlier + 1) :
      (readRow (indicatorRows math indicators candles (candles.map (fun _ => empty))) earlier
        key).isSome := by
    rw [readRow, entryAt_indicatorRows math hstart hearlier hnodup hids hindicator hkey]
    exact (keyedIndicatorValues_warmup math indicator candles hpositive hearlier).1 hover
      (fun first _ _ => hregular indicator hindicator first) key hkey
  have hread (other : IndicatorOperand) (hother : other ∈ operands)
      (indicator : IndicatorDefinition) (hindicator : indicator ∈ indicators)
      (hid : other.indicator = indicator.id) :
      requireOperandSeries other indicator ∧ BaseRead (indicatorRows math indicators candles
        (candles.map (fun _ => empty))) bar other := by
    refine ⟨hseries other hother indicator hindicator hid, ?_⟩
    intro offset hoffset
    have hcovers := hwarm other hother indicator hindicator hid
    rw [hoffset, Option.elim_some] at hcovers
    have hpos := baseMinWarmup_pos indicator.rule
    have hmin : baseMinWarmup indicator.rule ≤ indicatorMinWarmup indicator := Nat.le_add_right _ _
    refine ⟨by omega, hbase indicator hindicator _
      (mem_indicatorValueKeys_of_operand hid (hseries other hother indicator hindicator hid)) _
      (by omega) (by omega)⟩
  -- the lagged reads are added one operand at a time
  have hlags (done : List IndicatorOperand) (hdone : ∀ other ∈ done, other ∈ operands) :
      LagsRead indicators (indicatorRows math indicators candles (candles.map (fun _ => empty)))
        (done.foldl (addOperandLag (indicators.map (·.id)))
          (indicatorRows math indicators candles (candles.map (fun _ => empty)))) bar done := by
    induction done using List.reverseRecOn with
    | nil => exact ⟨rfl, fun _ _ _ _ _ => rfl, by simp⟩
    | append_singleton _ other ih =>
      rw [foldl_append]
      exact (ih (fun first hfirst => hdone first (by simp [hfirst]))).step hids (by omega)
        (hread other (hdone other (by simp)))
  have hall := hlags operands (fun _ h => h)
  change (readRow (operands.foldl (addOperandLag (indicators.map (·.id)))
    (indicatorRows math indicators candles (candles.map (fun _ => empty)))) bar
      (operandValueKey operand)).isSome
  by_cases hoffset : operand.offset = none
  · obtain ⟨indicator, hindicator, hid⟩ := mem_map.mp hknown
    have hkey := mem_indicatorValueKeys_of_operand hid.symm
      (hseries operand hoperand indicator hindicator hid.symm)
    have hplain : { operand with offset := none } = operand := by rw [← hoffset]
    rw [hplain] at hkey
    have hcovers := hwarm operand hoperand indicator hindicator hid.symm
    rw [readRow, hall.kept indicator hindicator _ hkey bar]
    exact hbase indicator hindicator _ hkey bar hbar (by omega)
  · exact hall.read operand hoperand hoffset hknown

theorem calculateIndicatorRows_owner (hids : ∀ indicator ∈ indicators, validIdentifier indicator.id)
    (operands : List IndicatorOperand) (hbar : bar < candles.length) (key : String)
    (hkey : (entryAt (calculateIndicatorRows math indicators operands candles) bar key).isSome) :
    ∃ indicator ∈ indicators, keyOwner key = indicator.id.toList := by
  have hstart : (candles.map (fun _ => (empty : Row))).length = candles.length := by simp
  -- each lagged read adds one key of an indicator of the clock
  have howned (done : List IndicatorOperand) :
      (done.foldl (addOperandLag (indicators.map (·.id)))
        (indicatorRows math indicators candles (candles.map (fun _ => empty)))).length =
          candles.length ∧
      ∀ key, (entryAt (done.foldl (addOperandLag (indicators.map (·.id)))
        (indicatorRows math indicators candles (candles.map (fun _ => empty)))) bar
          key).isSome → ∃ indicator ∈ indicators, keyOwner key = indicator.id.toList := by
    induction done using List.reverseRecOn with
    | nil =>
      refine ⟨length_indicatorRows math indicators hstart, ?_⟩
      intro key hsome
      by_contra hnone
      have hother : ∀ indicator ∈ indicators, key ∉ indicatorValueKeys indicator :=
        fun indicator hindicator hmem =>
          hnone ⟨indicator, hindicator, key_owner (hids indicator hindicator) hmem⟩
      rw [foldl_nil, entryAt_indicatorRows_of_not_mem math hstart hbar hother, entryAt,
        getElem?_map] at hsome
      cases hcandle : candles[bar]? with
      | none | some => rw [hcandle] at hsome; cases hsome
    | append_singleton done operand ih =>
      obtain ⟨hlength, howner⟩ := ih
      rw [foldl_append, foldl_cons, foldl_nil]
      generalize done.foldl (addOperandLag (indicators.map (·.id)))
        (indicatorRows math indicators candles (candles.map (fun _ => empty))) = rows
        at hlength howner
      unfold addOperandLag
      cases operand.offset with
      | none => exact ⟨hlength, howner⟩
      | some offset =>
        by_cases hknown : operand.indicator ∈ indicators.map (·.id)
        · obtain ⟨indicator, hindicator, hid⟩ := mem_map.mp hknown
          simp only [if_pos hknown]
          have hlagged : rows.length = (lag offset.value none (rows.map (fun row =>
              Row.value row (operandValueKey { operand with offset := none })))).length := by
            rw [(causal_lag _ _).length_eq, length_map]
          refine ⟨by rw [assignSeries, length_zipWith, ← hlagged, Nat.min_self, hlength], ?_⟩
          intro key hsome
          rw [entryAt_assignSeries hlagged] at hsome
          by_cases hsame : key = operandValueKey operand
          · have hvalid : validIdentifier operand.indicator := hid ▸ hids indicator hindicator
            exact ⟨indicator, hindicator, by rw [hsame, keyOwner_operand hvalid, hid]⟩
          · rw [if_neg hsame] at hsome
            exact howner key hsome
        · simp only [if_neg hknown]
          exact ⟨hlength, howner⟩
  exact (howned operands).2 key hkey

end Thytrader.Evaluation
