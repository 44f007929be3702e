import Mathlib.Data.List.Induction
import Mathlib.Data.Nat.Basic
import Mathlib.Data.Option.NAry
import Thytrader.Lib.Series

/-!
# Where a series with holes is defined

A series of optional values is *defined* at a bar when it has a value there. Each way
of building such a series has one rule here: a trailing window, an entrywise
combination, a loop that carries a state. The rules are equivalences, so the bars at which a
derived series is defined can be read off its definition.
-/

namespace Thytrader.Lib

open List Option

variable {first bars period : Nat} {xs : List α}

variable {α β γ σ : Type}
variable {length bar : Nat}

def Defined (series : List (Option α)) (bar : Nat) : Prop :=
  ∃ value, series[bar]? = some (some value)

/-- The first bars of a series have no value. -/
def Blank (series : List (Option α)) (bars : Nat) : Prop :=
  ∀ bar < bars, ¬ Defined series bar

/-- The bars of a trailing window of `period` bars all have a value. -/
def DefinedOver (series : List (Option α)) (period bar : Nat) : Prop :=
  ∀ earlier ≤ bar, bar < earlier + period → Defined series earlier

/-- A series of `length` bars is defined from its bar `first` on, and only there. -/
def StartsAt (series : List (Option α)) (length first : Nat) : Prop :=
  ∀ bar, Defined series bar ↔ bar < length ∧ first ≤ bar

variable {series : List (Option α)}

theorem StartsAt.blank (h : StartsAt series length first) : Blank series first := by
  intro bar hbar hdefined
  have hfirst := ((h bar).mp hdefined).2
  omega

theorem StartsAt.defined (h : StartsAt series length first) (hbar : bar < length)
    (hfirst : first ≤ bar) : Defined series bar :=
  (h bar).mpr ⟨hbar, hfirst⟩

theorem Defined.lt_length (h : Defined series bar) : bar < series.length := by
  obtain ⟨value, hvalue⟩ := h
  exact (List.getElem?_eq_some_iff.mp hvalue).1

theorem Blank.mono {fewer : Nat} (h : Blank series bars) (hle : fewer ≤ bars) :
    Blank series fewer :=
  fun bar hbar => h bar (by omega)

/-! ## Entrywise combinations -/

/-- An answer that wants the first entry of each row is blank as long as those entries are. -/
theorem Blank.zipWith_zip {firsts : List (Option α)} {seconds : List (Option β)} {xs : List γ}
    {answer : γ → Option α × Option β → Option σ} (hnone : ∀ x y, answer x (none, y) = none)
    (h : Blank firsts bars) : Blank (List.zipWith answer xs (firsts.zip seconds)) bars := by
  rintro bar hbar ⟨value, hvalue⟩
  obtain ⟨x, ⟨first, second⟩, -, hrow, hanswer⟩ := getElem?_zipWith_eq_some.mp hvalue
  cases first with
  | none => rw [hnone] at hanswer; cases hanswer
  | some first => exact h bar hbar ⟨first, (getElem?_zip_eq_some.mp hrow).1⟩

theorem defined_map_some (f : α → β) (xs : List α) (bar : Nat) :
    Defined (xs.map (fun x => some (f x))) bar ↔ bar < xs.length := by
  simp [Defined, List.getElem?_eq_some_iff]

theorem defined_map {f : Option α → Option β} (hnone : f none = none) (series : List (Option α))
    (bar : Nat) :
    Defined (series.map f) bar ↔
      ∃ value, series[bar]? = some (some value) ∧ (f (some value)).isSome := by
  simp only [Defined, getElem?_map]
  constructor
  · rintro ⟨result, hresult⟩
    obtain ⟨entry, hentry, hresult⟩ := map_eq_some_iff.mp hresult
    cases entry with
    | none => rw [hnone] at hresult; cases hresult
    | some value => exact ⟨value, hentry, by rw [hresult]; rfl⟩
  · rintro ⟨value, hvalue, hsome⟩
    obtain ⟨result, hresult⟩ := isSome_iff_exists.mp hsome
    exact ⟨result, by rw [hvalue, map_some, hresult]⟩

theorem defined_optionMap (f : α → β) (series : List (Option α)) (bar : Nat) :
    Defined (series.map (Option.map f)) bar ↔ Defined series bar := by
  simp [Defined]

theorem defined_zipWith_of {δ : Type} {op : α → β → Option δ} {xs : List α} {ys : List β} {x : α}
    {y : β} (hx : xs[bar]? = some x) (hy : ys[bar]? = some y) (hsome : (op x y).isSome) :
    Defined (List.zipWith op xs ys) bar := by
  obtain ⟨result, hresult⟩ := isSome_iff_exists.mp hsome
  exact ⟨result, getElem?_zipWith_eq_some.mpr ⟨x, y, hx, hy, hresult⟩⟩

theorem defined_zipWith {op : Option α → Option β → Option γ} (hleft : ∀ right, op none right = none)
    (hright : ∀ left, op left none = none) (xs : List (Option α)) (ys : List (Option β))
    (bar : Nat) :
    Defined (List.zipWith op xs ys) bar ↔
      ∃ x y, xs[bar]? = some (some x) ∧ ys[bar]? = some (some y) ∧
        (op (some x) (some y)).isSome := by
  simp only [Defined, getElem?_zipWith_eq_some]
  constructor
  · rintro ⟨result, x, y, hx, hy, hresult⟩
    cases x with
    | none => rw [hleft] at hresult; cases hresult
    | some x =>
      cases y with
      | none => rw [hright] at hresult; cases hresult
      | some y => exact ⟨x, y, hx, hy, by rw [hresult]; rfl⟩
  · rintro ⟨x, y, hx, hy, hsome⟩
    obtain ⟨result, hresult⟩ := isSome_iff_exists.mp hsome
    exact ⟨result, some x, some y, hx, hy, hresult⟩

theorem defined_zipWith_map₂ (op : α → β → γ) (xs : List (Option α)) (ys : List (Option β))
    (bar : Nat) :
    Defined (List.zipWith (Option.map₂ op) xs ys) bar ↔ Defined xs bar ∧ Defined ys bar := by
  rw [defined_zipWith (fun _ => rfl) (fun left => by cases left <;> rfl)]
  simp [Defined]

theorem StartsAt.map₂ {xs : List (Option α)} {ys : List (Option β)} {second : Nat}
    (hxs : StartsAt xs length first) (hys : StartsAt ys length second) (op : α → β → γ) :
    StartsAt (List.zipWith (Option.map₂ op) xs ys) length (max first second) := by
  intro bar
  rw [defined_zipWith_map₂, hxs bar, hys bar]
  omega

theorem StartsAt.optionMap (h : StartsAt series length first) (f : α → β) :
    StartsAt (series.map (Option.map f)) length first := by
  intro bar
  rw [defined_optionMap, h bar]

theorem defined_zipWith_total {op : α → Option β → Option γ} (hnone : ∀ x, op x none = none)
    (xs : List α) (ys : List (Option β)) (bar : Nat) :
    Defined (List.zipWith op xs ys) bar ↔
      ∃ x y, xs[bar]? = some x ∧ ys[bar]? = some (some y) ∧ (op x (some y)).isSome := by
  simp only [Defined, getElem?_zipWith_eq_some]
  constructor
  · rintro ⟨result, x, y, hx, hy, hresult⟩
    cases y with
    | none => rw [hnone] at hresult; cases hresult
    | some y => exact ⟨x, y, hx, hy, by rw [hresult]; rfl⟩
  · rintro ⟨x, y, hx, hy, hsome⟩
    obtain ⟨result, hresult⟩ := isSome_iff_exists.mp hsome
    exact ⟨result, x, some y, hx, hy, hresult⟩

/-! ## Trailing windows -/

def window (period : Nat) (xs : List α) (bar : Nat) : List α :=
  slice xs (bar + 1 - period) (bar + 1)

theorem window_length (period : Nat) (hbar : bar < xs.length) (hfull : period ≤ bar + 1) :
    (window period xs bar).length = period := by
  simp only [window, slice, length_drop, length_take]
  omega

theorem getElem?_window (hfull : period ≤ bar + 1) {index : Nat} (hindex : index < period) :
    (window period xs bar)[index]? = xs[bar + 1 - period + index]? := by
  rw [window, slice, getElem?_drop, getElem?_take_of_lt (by omega)]

theorem mem_of_mem_window {period : Nat} {xs : List α} {x : α} (h : x ∈ window period xs bar) :
    x ∈ xs :=
  mem_of_mem_take (mem_of_mem_drop h)

section

variable (period : Nat) (answer : List α → Option β) (xs : List α)

theorem getElem?_rolling (bar : Nat) :
    (rolling period answer xs)[bar]? = if bar < xs.length then
      some (if bar + 1 < period then none else answer (window period xs bar)) else none := by
  unfold rolling tabulate
  by_cases h : bar < xs.length
  · rw [getElem?_map, getElem?_range h, if_pos h]
    rfl
  · rw [getElem?_eq_none (by simpa using h), if_neg h]

theorem defined_rolling (bar : Nat) :
    Defined (rolling period answer xs) bar ↔
      bar < xs.length ∧ period ≤ bar + 1 ∧ (answer (window period xs bar)).isSome := by
  rw [Defined, getElem?_rolling]
  by_cases hbar : bar < xs.length
  · by_cases hfull : bar + 1 < period
    · simp [hbar, hfull]
    · simp [hbar, hfull, isSome_iff_exists, Nat.le_of_not_lt hfull]
  · simp [hbar]

theorem blank_rolling : Blank (rolling period answer xs) (period - 1) := by
  intro bar hbar hdefined
  have hfull := ((defined_rolling period answer xs bar).mp hdefined).2.1
  omega

end

section

variable (period : Nat) (answer : List α → β) (xs : List α)

/-- A window that always answers is defined as soon as it is full. -/
theorem defined_rolling_some (bar : Nat) :
    Defined (rolling period (fun row => some (answer row)) xs) bar ↔
      bar < xs.length ∧ period ≤ bar + 1 := by
  rw [defined_rolling]
  simp

theorem startsAt_rolling :
    StartsAt (rolling period (fun row => some (answer row)) xs) xs.length (period - 1) := by
  intro bar
  rw [defined_rolling_some]
  omega

end

/-- The entries of a full window are the bars it covers. -/
theorem forall_mem_window (hbar : bar < series.length) (hfull : period ≤ bar + 1) :
    (∀ entry ∈ window period series bar, entry.isSome) ↔ DefinedOver series period bar := by
  constructor
  · intro hall earlier hle hnear
    have hindex : (window period series bar)[earlier - (bar + 1 - period)]? = series[earlier]? := by
      rw [getElem?_window hfull (by omega)]
      congr 1
      omega
    have hentry : series[earlier]? = some series[earlier] := getElem?_eq_getElem (by omega)
    rw [hentry] at hindex
    obtain ⟨value, hvalue⟩ := isSome_iff_exists.mp (hall _ (mem_of_getElem? hindex))
    exact ⟨value, by rw [hentry, hvalue]⟩
  · intro hover entry hentry
    obtain ⟨index, hindex⟩ := mem_iff_getElem?.mp hentry
    have hlt : index < period := by
      have h := (List.getElem?_eq_some_iff.mp hindex).1
      rwa [window_length period hbar hfull] at h
    rw [getElem?_window hfull hlt] at hindex
    obtain ⟨value, hvalue⟩ := hover (bar + 1 - period + index) (by omega) (by omega)
    rw [hvalue] at hindex
    cases hindex
    rfl

theorem defined_rolling_all (hperiod : 1 ≤ period) {answer : List (Option α) → Option β}
    (series : List (Option α))
    (hanswer : ∀ row : List (Option α), row.length = period → ((answer row).isSome ↔ ∀ entry ∈ row,
      entry.isSome)) (bar : Nat) :
    Defined (rolling period answer series) bar ↔
      period ≤ bar + 1 ∧ DefinedOver series period bar := by
  rw [defined_rolling]
  constructor
  · rintro ⟨hbar, hfull, hsome⟩
    exact ⟨hfull, (forall_mem_window hbar hfull).mp
      ((hanswer _ (window_length period hbar hfull)).mp hsome)⟩
  · rintro ⟨hfull, hover⟩
    have hbar := (hover bar le_rfl (by omega)).lt_length
    exact ⟨hbar, hfull, (hanswer _ (window_length period hbar hfull)).mpr
      ((forall_mem_window hbar hfull).mpr hover)⟩

variable {derived : List (Option β)}

/-- A window over a series with a blank head is blank for as long as it overlaps it. -/
theorem Blank.of_over (hperiod : 1 ≤ period)
    (hderived : ∀ bar, Defined derived bar → period ≤ bar + 1 ∧ DefinedOver series period bar)
    (h : Blank series bars) : Blank derived (bars + period - 1) := by
  intro bar hbar hdefined
  obtain ⟨hfull, hover⟩ := hderived bar hdefined
  -- the oldest bar of the window is still in the blank head
  exact h (bar + 1 - period) (by omega) (hover (bar + 1 - period) (by omega) (by omega))

theorem StartsAt.of_over (hperiod : 1 ≤ period)
    (hderived : ∀ bar, Defined derived bar ↔ period ≤ bar + 1 ∧ DefinedOver series period bar)
    (h : StartsAt series length first) : StartsAt derived length (first + period - 1) := by
  intro bar
  rw [hderived bar]
  constructor
  · rintro ⟨hfull, hover⟩
    have hlast := (h bar).mp (hover bar le_rfl (by omega))
    have hfirst := (h (bar + 1 - period)).mp (hover (bar + 1 - period) (by omega) (by omega))
    omega
  · rintro ⟨hbar, hfirst⟩
    refine ⟨by omega, ?_⟩
    intro earlier hle hnear
    exact h.defined (by omega) (by omega)

/-! ## Loops -/

/-- The state a loop has reached after some entries. -/
def stateAfter (step : σ → α → σ × β) (state : σ) (xs : List α) : σ :=
  xs.foldl (fun state x => (step state x).1) state

theorem getElem?_machine (step : σ → α → σ × β) (state : σ) (xs : List α) (bar : Nat) :
    (machine step state xs)[bar]? =
      xs[bar]?.map (fun x => (step (stateAfter step state (xs.take bar)) x).2) := by
  induction xs generalizing state bar with
  | nil => simp [machine]
  | cons _ _ ih =>
    cases bar with
    | zero => simp [machine, stateAfter]
    | succ =>
      rw [machine, getElem?_cons_succ, ih, getElem?_cons_succ, take_succ_cons]
      rfl

variable (step : σ → α → σ × Option β)

theorem defined_machine (state : σ) (xs : List α) (bar : Nat) :
    Defined (machine step state xs) bar ↔
      ∃ x, xs[bar]? = some x ∧ (step (stateAfter step state (xs.take bar)) x).2.isSome := by
  simp only [Defined, getElem?_machine, map_eq_some_iff, isSome_iff_exists]
  rw [exists_comm]
  simp only [exists_and_left]

/-- What holds initially and is kept by every step holds of the state reached. -/
theorem stateAfter_inv (step : σ → α → σ × β) (Inv : Nat → σ → Prop) {state : σ}
    (hinit : Inv 0 state) (hstep : ∀ n state x, Inv n state → Inv (n + 1) (step state x).1)
    (xs : List α) : Inv xs.length (stateAfter step state xs) := by
  -- the count of entries read is part of the invariant, so the list grows at its end
  induction xs using List.reverseRecOn with
  | nil => exact hinit
  | append_singleton _ x ih =>
    rw [stateAfter, foldl_append, length_append]
    exact hstep _ _ x ih

/-- A loop whose state decides by the number of entries read whether it answers. -/
theorem startsAt_machine (Inv : Nat → σ → Prop) {state : σ} (hinit : Inv 0 state)
    (hstep : ∀ n state x, Inv n state → Inv (n + 1) (step state x).1)
    (hanswer : ∀ n state x, Inv n state → ((step state x).2.isSome ↔ first ≤ n)) (xs : List α) :
    StartsAt (machine step state xs) xs.length first := by
  intro bar
  rw [defined_machine]
  have hreached (hbar : bar < xs.length) : Inv bar (stateAfter step state (xs.take bar)) := by
    have h := stateAfter_inv step Inv hinit hstep (xs.take bar)
    rwa [length_take, Nat.min_eq_left (by omega)] at h
  constructor
  · rintro ⟨x, hx, hsome⟩
    have hbar := (List.getElem?_eq_some_iff.mp hx).1
    exact ⟨hbar, (hanswer bar _ x (hreached hbar)).mp hsome⟩
  · rintro ⟨hbar, hfirst⟩
    exact ⟨xs[bar], getElem?_eq_getElem hbar, (hanswer bar _ _ (hreached hbar)).mpr hfirst⟩

theorem getElem?_withPrevious (answer : Option α → α → β) (xs : List α) (bar : Nat) :
    (withPrevious answer xs)[bar]? =
      xs[bar]?.map (answer (if bar = 0 then none else xs[bar - 1]?)) := by
  rw [withPrevious, getElem?_machine]
  cases hx : xs[bar]? with
  | none => rfl
  | some x =>
    have hlt := (List.getElem?_eq_some_iff.mp hx).1
    have hstate : stateAfter (fun previous x => (some x, answer previous x)) none
        (xs.take bar) = if bar = 0 then none else xs[bar - 1]? := by
      cases bar with
      | zero => rfl
      | succ bar =>
        rw [take_add_one, getElem?_eq_getElem (by omega), stateAfter, foldl_append]
        simp [getElem?_eq_getElem (show bar < xs.length by omega)]
    rw [map_some, map_some, hstate]

theorem defined_withPrevious_map (answer : α → α → β) (xs : List α) (bar : Nat) :
    Defined (withPrevious (fun previous x => previous.map (fun previous => answer previous x)) xs)
      bar ↔ bar < xs.length ∧ 1 ≤ bar := by
  simp only [Defined, getElem?_withPrevious]
  cases bar with
  | zero => cases xs[0]? <;> simp
  | succ bar =>
    by_cases hbar : bar + 1 < xs.length
    · simp [hbar, getElem?_eq_getElem (show bar < xs.length by omega)]
    · simp [hbar]

/-! ## Counting values -/

/-- How many of the first bars have a value. -/
def definedCount (series : List (Option α)) (bars : Nat) : Nat :=
  ((series.take bars).filterMap id).length

theorem definedCount_succ (series : List (Option α)) (bar : Nat) :
    definedCount series (bar + 1) =
      definedCount series bar + ((series[bar]?.bind id).toList).length := by
  rw [definedCount, take_add_one, filterMap_append, length_append, definedCount]
  cases h : series[bar]? with
  | none => rfl
  | some entry => cases entry <;> rfl

theorem definedCount_succ_le (series : List (Option α)) (bar : Nat) :
    definedCount series (bar + 1) ≤ definedCount series bar + 1 := by
  rw [definedCount_succ]
  cases series[bar]?.bind id <;> simp

/-- A blank head adds nothing to the count. -/
theorem definedCount_le_of_blank (h : Blank series bars) (bar : Nat) :
    definedCount series bar ≤ bar - bars := by
  induction bar with
  | zero => simp [definedCount]
  | succ bar =>
    by_cases hblank : bar < bars
    · have hnone : series[bar]?.bind id = none := by
        cases hentry : series[bar]? with
        | none => rfl
        | some entry =>
          cases entry with
          | none => rfl
          | some value => exact absurd ⟨value, hentry⟩ (h bar hblank)
      rw [definedCount_succ, hnone]
      simp only [toList_none, length_nil]
      omega
    · have hstep := definedCount_succ_le series bar
      omega

/-- A full window adds all of its bars to the count. -/
theorem le_definedCount (hfull : period ≤ bar + 1) (h : DefinedOver series period bar) :
    period ≤ definedCount series (bar + 1) := by
  -- from the start of the window on, each bar counts
  have hcount (kept : Nat) (hkept : kept ≤ period) :
      kept ≤ definedCount series (bar + 1 - period + kept) := by
    induction kept with
    | zero => exact Nat.zero_le _
    | succ kept =>
      obtain ⟨value, hvalue⟩ := h (bar + 1 - period + kept) (by omega) (by omega)
      have hstep := definedCount_succ series (bar + 1 - period + kept)
      rw [hvalue] at hstep
      simp only [bind_some, id_eq, toList_some, length_cons, length_nil] at hstep
      rw [show bar + 1 - period + (kept + 1) = bar + 1 - period + kept + 1 by omega]
      omega
  have hall := hcount period (Nat.le_refl _)
  rwa [show bar + 1 - period + period = bar + 1 by omega] at hall

end Thytrader.Lib
