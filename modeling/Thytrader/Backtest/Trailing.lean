import Thytrader.Backtest.Kernel

/-!
# Trailing stops only tighten

The ratchet of `trading/trailing.py` over any sequence of bars, with or without a venue increment,
and the kernel's trail as a run of it with the ATR read from the signal trace
(`trailing_only_tightens`). A bar without a defined ATR moves only the extreme.
-/

namespace Thytrader.Backtest

open Trading MarketData Strategies Evaluation

/-- What the ratchet reads of a bar. -/
structure TrailBar where
  high : Decimal
  low : Decimal
  atr : Option Decimal
  ratchet : Bool

def TrailBar.watched (bar : TrailBar) : PositionSide → Decimal
  | .long => bar.high
  | .short => bar.low

/-- The stop and the extreme after one more bar of a side's ratchet. -/
def trail (side : PositionSide) (multiple : Decimal) (increment : Option Decimal)
    (held : Decimal × Option Decimal) (bar : TrailBar) : Result (Decimal × Option Decimal) := do
  let state ← match side with
    | .long => ratchetedLongStop held.1 held.2 bar.high bar.atr multiple increment bar.ratchet
    | .short => ratchetedShortStop held.1 held.2 bar.low bar.atr multiple increment bar.ratchet
  return (state.stopPrice, some state.trailExtreme)

/-- The same after all bars since the trail became active. -/
def trailAfter (side : PositionSide) (multiple : Decimal) (increment : Option Decimal)
    (stop : Decimal) (bars : List TrailBar) : Result (Decimal × Option Decimal) :=
  bars.foldlM (trail side multiple increment) (stop, none)

/-! ## One bar -/

/-- The further of two extremes and the tighter of two stops. -/
def tighter : PositionSide → Decimal → Decimal → Decimal
  | .long => max
  | .short => min

def Tightens (side : PositionSide) (stop later : Decimal) : Prop :=
  match side with
  | .long => stop ≤ later
  | .short => later ≤ stop

/-- The extreme carried after a bar. -/
def reached (side : PositionSide) (carried : Option Decimal) (bar : TrailBar) : Decimal :=
  (carried.map (tighter side · (bar.watched side))).getD (bar.watched side)

def behind (side : PositionSide) (extreme distance : Decimal) : Decimal :=
  match side with
  | .long => extreme - distance
  | .short => extreme + distance

/-- The stop lies `multiple` defined ATRs behind the extreme, snapped onto the increment. -/
def DerivedFrom (side : PositionSide) (multiple : Decimal) (increment : Option Decimal)
    (bar : TrailBar) (extreme : Option Decimal) (stop : Decimal) : Prop :=
  ∃ atr reached, bar.atr = some atr ∧ 0 < atr ∧ extreme = some reached ∧
    trailCandidate (behind side reached (atr * multiple)) increment = .ok stop

variable {side : PositionSide} {multiple : Decimal} {increment : Option Decimal}
  (stop candidate : Decimal)

theorem tightens_tighter :
    Tightens side stop (tighter side stop candidate) := by
  cases side with
  | long => exact le_max_left stop candidate
  | short => exact min_le_left stop candidate

theorem tighter_choice :
    tighter side stop candidate = stop ∨ tighter side stop candidate = candidate := by
  cases side with
  | long => exact max_choice stop candidate
  | short => exact min_choice stop candidate

theorem Tightens.refl (stop : Decimal) : Tightens side stop stop := by
  cases side with
  | long | short => exact le_refl stop

theorem Tightens.trans {stop next later : Decimal} (h : Tightens side stop next)
    (hnext : Tightens side next later) : Tightens side stop later := by
  cases side with
  | long => exact le_trans h hnext
  | short => exact le_trans hnext h

/-- Both sides are one rule. -/
theorem trail_eq (held : Decimal × Option Decimal) (bar : TrailBar) :
    trail side multiple increment held bar =
      let extreme := reached side held.2 bar
      match bar.atr with
      | none => .ok (held.1, some extreme)
      | some atr =>
        if bar.ratchet = false ∨ atr ≤ 0 ∨ multiple ≤ 0 then .ok (held.1, some extreme)
        else do
          let candidate ← trailCandidate (behind side extreme (atr * multiple)) increment
          return (if candidate ≤ 0 then held.1 else tighter side held.1 candidate, some extreme) := by
  obtain ⟨stop, extreme⟩ := held
  obtain ⟨high, low, atr, ratchet⟩ := bar
  cases side with
  | long | short =>
    cases atr with
    | none => cases extreme <;> rfl
    | some atr =>
      by_cases hidle : ratchet = false ∨ atr ≤ 0 ∨ multiple ≤ 0
      · cases extreme <;> simp only [trail, ratchetedLongStop, ratchetedShortStop, if_pos hidle] <;>
          rfl
      · simp only [trail, ratchetedLongStop, ratchetedShortStop, if_neg hidle, bind_assoc]
        cases extreme with
        | none | some =>
          refine bind_congr fun candidate => ?_
          by_cases hcandidate : candidate ≤ 0
          · simp only [if_pos hcandidate]
            rfl
          · simp only [if_neg hcandidate]
            rfl

/-- An extreme is carried from the first bar on: the highest high, or the lowest low. -/
def Carries (side : PositionSide) (bars : List TrailBar) : Option Decimal → Prop
  | none => bars = []
  | some extreme =>
    match side with
    | .long => IsGreatest {price | ∃ bar ∈ bars, bar.high = price} extreme
    | .short => IsLeast {price | ∃ bar ∈ bars, bar.low = price} extreme

variable {bars : List TrailBar}

theorem Carries.next {carried : Option Decimal} (h : Carries side bars carried) (bar : TrailBar) :
    Carries side (bars ++ [bar]) (some (reached side carried bar)) := by
  have hrange (price : TrailBar → Decimal) : {value | ∃ seen ∈ bars ++ [bar], price seen = value} =
      insert (price bar) {value | ∃ seen ∈ bars, price seen = value} := by
    ext value
    simp [or_and_right, exists_or, eq_comm, or_comm]
  cases carried with
  | none =>
    cases h
    cases side with
    | long | short => simp [Carries, reached, TrailBar.watched]
  | some extreme =>
    cases side with
    | long =>
      have hinsert := IsGreatest.insert bar.high h
      rwa [max_comm, ← hrange] at hinsert
    | short =>
      have hinsert := IsLeast.insert bar.low h
      rwa [min_comm, ← hrange] at hinsert

/-- What one bar does: the extreme moves, and the stop stays or is derived from a defined ATR. -/
theorem trail_spec {held next : Decimal × Option Decimal} {bar : TrailBar}
    (h : trail side multiple increment held bar = .ok next) (hcarries : Carries side bars held.2) :
    Carries side (bars ++ [bar]) next.2 ∧ Tightens side held.1 next.1 ∧
      (next.1 = held.1 ∨ DerivedFrom side multiple increment bar next.2 next.1) := by
  have hnext := hcarries.next bar
  rw [trail_eq] at h
  cases hatr : bar.atr with
  | none =>
    simp only [hatr] at h
    cases h
    exact ⟨hnext, .refl _, .inl rfl⟩
  | some atr =>
    simp only [hatr] at h
    split at h
    · cases h
      exact ⟨hnext, .refl _, .inl rfl⟩
    next hactive =>
      obtain ⟨candidate, hcandidate, h⟩ := bind_eq_ok h
      cases h
      push Not at hactive
      split
      · exact ⟨hnext, .refl _, .inl rfl⟩
      · refine ⟨hnext, tightens_tighter _ _, (tighter_choice held.1 candidate).imp_right fun h => ?_⟩
        exact ⟨atr, _, hatr, hactive.2.1, rfl, hcandidate.trans (congrArg _ h.symm)⟩

/-- Only an increment that is not positive raises. -/
theorem trail_ok (hincrement : ∀ value ∈ increment, 0 < value) (held : Decimal × Option Decimal)
    (bar : TrailBar) : ∃ next, trail side multiple increment held bar = .ok next := by
  have hsnap (value : Decimal) : ∃ snapped, trailCandidate value increment = .ok snapped := by
    cases increment with
    | none => exact ⟨value, rfl⟩
    | some step => exact ⟨_, if_neg (not_le.mpr (hincrement step rfl))⟩
  rw [trail_eq]
  cases bar.atr with
  | none => exact ⟨_, rfl⟩
  | some atr =>
    simp only
    split
    · exact ⟨_, rfl⟩
    · obtain ⟨candidate, hcandidate⟩ := hsnap _
      rw [hcandidate]
      exact ⟨_, rfl⟩

/-! ## Runs -/

/-- The stop is the first one, or lies behind the extreme up to a bar whose ATR is defined. -/
def Derived (side : PositionSide) (multiple : Decimal) (increment : Option Decimal)
    (first : Decimal) (bars : List TrailBar) (stop : Decimal) : Prop :=
  stop = first ∨ ∃ before bar after extreme, bars = before ++ bar :: after ∧
    Carries side (before ++ [bar]) extreme ∧
    DerivedFrom side multiple increment bar extreme stop

theorem trailAfter_append (stop : Decimal) (bars more : List TrailBar) :
    trailAfter side multiple increment stop (bars ++ more) =
      trailAfter side multiple increment stop bars >>= fun held =>
        more.foldlM (trail side multiple increment) held :=
  List.foldlM_append

theorem trailAfter_spec {stop : Decimal} {held : Decimal × Option Decimal}
    (h : trailAfter side multiple increment stop bars = .ok held) :
    Carries side bars held.2 ∧ Derived side multiple increment stop bars held.1 := by
  induction bars using List.reverseRecOn generalizing held with
  | nil =>
    cases h
    exact ⟨rfl, .inl rfl⟩
  | append_singleton bars bar ih =>
    rw [trailAfter_append] at h
    obtain ⟨earlier, hearlier, h⟩ := bind_eq_ok h
    rw [List.foldlM_cons] at h
    obtain ⟨next, hnext, h⟩ := bind_eq_ok h
    cases h
    obtain ⟨hcarries, hderived⟩ := ih hearlier
    obtain ⟨hcarries, -, hstop⟩ := trail_spec hnext hcarries
    refine ⟨hcarries, ?_⟩
    obtain hstop | hstop := hstop
    · rw [hstop]
      refine hderived.imp_right fun ⟨before, seen, after, extreme, hbars, h⟩ => ?_
      exact ⟨before, seen, after ++ [bar], extreme, by simp [hbars], h⟩
    · exact .inr ⟨bars, bar, [], held.2, rfl, hcarries, hstop⟩

theorem foldlM_tightens {held later : Decimal × Option Decimal} {seen bars : List TrailBar}
    (hcarries : Carries side seen held.2)
    (h : bars.foldlM (trail side multiple increment) held = .ok later) :
    Tightens side held.1 later.1 := by
  induction bars generalizing held seen with
  | nil =>
    cases h
    exact .refl _
  | cons bar bars ih =>
    rw [List.foldlM_cons] at h
    obtain ⟨next, hnext, h⟩ := bind_eq_ok h
    obtain ⟨hcarries, htightens, -⟩ := trail_spec hnext hcarries
    exact htightens.trans (ih hcarries h)

theorem foldlM_ok (hincrement : ∀ value ∈ increment, 0 < value) (held : Decimal × Option Decimal)
    (bars : List TrailBar) :
    ∃ later, bars.foldlM (trail side multiple increment) held = .ok later := by
  induction bars generalizing held with
  | nil => exact ⟨held, rfl⟩
  | cons bar bars ih =>
    obtain ⟨next, hnext⟩ := @trail_ok side multiple increment hincrement held bar
    rw [List.foldlM_cons, hnext]
    exact ih next

/-! ## The kernel -/

/-- A managed bar: its candle, its trace record and whether the entry filled on it. -/
abbrev ManagedBar := Candle × Option SignalTraceRecord × Bool

def ManagedBar.trail (policy : AtrMultiple) (bar : ManagedBar) : TrailBar :=
  ⟨bar.1.high, bar.1.low, optionalIndicatorValue bar.2.1 policy.atrIndicator, !bar.2.2⟩

/-- `_trail_position` over the bars of a position. -/
def trailPositions (strategy : StrategyDefinition) (position : Position) (bars : List ManagedBar) :
    Result Position :=
  bars.foldlM (fun position bar => trailPosition position bar.1 strategy bar.2.1 bar.2.2) position

def trailed (position : Position) (held : Decimal × Option Decimal) : Position :=
  { position with stopPrice := held.1, trailExtreme := held.2 }

variable {strategy : StrategyDefinition}

section

variable {policy : AtrMultiple} (hpolicy : strategy.exits.trailingStop = some policy)
  (position : Position) (held : Decimal × Option Decimal)
include hpolicy

theorem trailPosition_eq (bar : ManagedBar) :
    trailPosition (trailed position held) bar.1 strategy bar.2.1 bar.2.2 =
      trailed position <$> trail position.side policy.multiple none held (bar.trail policy) := by
  obtain ⟨_, _, _, _, _, _, side, _, _, _⟩ := position
  cases side with
  | long | short =>
    simp only [trailPosition, hpolicy, trail, map_bind]
    rfl

theorem trailPositions_eq (bars : List ManagedBar) :
    trailPositions strategy (trailed position held) bars = trailed position <$>
      (bars.map (ManagedBar.trail policy)).foldlM (trail position.side policy.multiple none)
        held := by
  unfold trailPositions
  induction bars generalizing held with
  | nil => rfl
  | cons bar bars ih =>
    rw [List.foldlM_cons, trailPosition_eq hpolicy, bind_map_left, List.map_cons,
      List.foldlM_cons, map_bind]
    exact bind_congr fun next => ih next

end

/-- The extreme is the running one, and the stop never loosens and never rests on an undefined ATR;
the kernel's positions trail so. -/
theorem trailing_only_tightens (side : PositionSide) (multiple stop : Decimal)
    (increment : Option Decimal) (bars more : List TrailBar) :
    ((∀ value ∈ increment, 0 < value) →
      ∃ later, trailAfter side multiple increment stop (bars ++ more) = .ok later) ∧
    (∀ later, trailAfter side multiple increment stop (bars ++ more) = .ok later →
      ∃ held, trailAfter side multiple increment stop bars = .ok held ∧
        Carries side bars held.2 ∧ Tightens side stop held.1 ∧ Tightens side held.1 later.1 ∧
        Derived side multiple increment stop bars held.1) ∧
    ∀ (strategy : StrategyDefinition) (policy : AtrMultiple) (position : Position)
      (managed : List ManagedBar), strategy.exits.trailingStop = some policy →
      position.trailExtreme = none →
      trailPositions strategy position managed = trailed position <$>
        trailAfter position.side policy.multiple none position.stopPrice
          (managed.map (ManagedBar.trail policy)) := by
  refine ⟨fun hincrement => foldlM_ok hincrement _ _, fun later h => ?_,
    fun strategy policy position managed hpolicy hfresh => ?_⟩
  · rw [trailAfter_append] at h
    obtain ⟨held, hheld, h⟩ := bind_eq_ok h
    obtain ⟨hcarries, hderived⟩ := trailAfter_spec hheld
    have hstart : Carries side [] none := rfl
    exact ⟨held, hheld, hcarries, foldlM_tightens hstart hheld,
      foldlM_tightens hcarries h, hderived⟩
  · have hself : trailed position (position.stopPrice, none) = position := by
      rw [← hfresh]
      rfl
    have h := trailPositions_eq hpolicy position (position.stopPrice, none) managed
    rwa [hself] at h

/-- The fill bar only records its high; a gap in the ATR leaves the raised stop. -/
theorem trailing_only_tightens_gap : Tightens .long 95 112 ∧
    trailAfter .long 2 (some 1) 95 [⟨110, 100, none, false⟩, ⟨120, 105, some 4, true⟩] =
      .ok (112, some 120) := by
  have hrun : trailAfter .long 2 (some 1) 95
      ([⟨110, 100, none, false⟩, ⟨120, 105, some 4, true⟩] ++ [⟨118, 90, none, true⟩]) =
      .ok (112, some 120) := by decide +kernel
  obtain ⟨held, hheld, -, htightens, -⟩ := (trailing_only_tightens .long 2 95 (some 1) _ _).2.1 _ hrun
  have : held = (112, some 120) := by
    refine Except.ok.inj (hheld.symm.trans ?_)
    decide +kernel
  subst this
  exact ⟨htightens, hheld⟩

end Thytrader.Backtest
