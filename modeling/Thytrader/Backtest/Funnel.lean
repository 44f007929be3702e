import Thytrader.Backtest.Accounting

/-!
# The signal funnel of a backtest

Every matched signal rests an entry or counts one skip reason, and every rested entry is filled,
expired, refused or left over. The law the counters keep (`Tally.Coherent`) has one more term than
the diagnostics check, the entries still resting, none after the close-out
(`runSimulation_funnel`).
-/

namespace Thytrader.Backtest

open Lib MarketData Strategies Trading Evaluation List

variable {book : Book} {feed : BookFeed} {sim : Simulation}

/-- The entries a book keeps resting: one or none. -/
def Book.resting (book : Book) : Nat := if book.pending.isSome then 1 else 0

/-- The conservation law of the counters, given how many entries still rest and how many
trades closed. -/
structure Tally.Coherent (tally : Tally) (resting closedTrades : Nat) : Prop where
  matched : tally.signalsMatched = tally.entriesRested + tally.skipped.values.sum
  settled : tally.entriesRested = tally.entriesFilled + tally.entriesExpired +
    tally.entriesRefusedAtFill + tally.entriesUnfilledAtEnd + resting
  exits : tally.exits.values.sum = closedTrades
  skippedCounted : ∀ count ∈ tally.skipped.values, 1 ≤ count
  exitsCounted : ∀ count ∈ tally.exits.values, 1 ≤ count

/-- The law on one product's turn; `others` entries rest on the other books. -/
def Desk.Coherent (others : Nat) (desk : Desk) : Prop :=
  desk.tally.Coherent (others + desk.book.resting) desk.trades.length

/-! ## Counting -/

section

variable {tally : Tally} {resting closedTrades : Nat}

section

variable (h : tally.Coherent resting closedTrades)
include h

theorem coherent_skip (reason : SkipReason) :
    ((matchedTally tally).skip reason).Coherent resting closedTrades := by
  refine ⟨?_, h.settled, h.exits, Dict.one_le_of_increment h.skippedCounted, h.exitsCounted⟩
  have hmatched := h.matched
  have hsum := tally.skipped.sum_values_increment reason
  simp only [Tally.skip, matchedTally]
  omega

theorem coherent_rested (pending : PendingEntry) :
    ((matchedTally tally).rested pending).Coherent (resting + 1) closedTrades := by
  refine ⟨?_, ?_, h.exits, h.skippedCounted, h.exitsCounted⟩
  · have hmatched := h.matched
    simp only [Tally.rested, matchedTally]
    omega
  · have hsettled := h.settled
    simp only [Tally.rested, matchedTally]
    omega

/-- A closed trade counts its exit reason. -/
theorem coherent_closed (trade : BacktestTrade) :
    (tally.closed trade).Coherent resting (closedTrades + 1) := by
  refine ⟨h.matched, h.settled, ?_, h.skippedCounted, Dict.one_le_of_increment h.exitsCounted⟩
  have hsum := tally.exits.sum_values_increment trade.exit.reason
  simp only [Tally.closed]
  rw [hsum, h.exits]

end

/-- A resting entry that leaves its book counts once, whichever way it goes. -/
theorem coherent_leaves {after : Tally} (h : tally.Coherent (resting + 1) closedTrades)
    (hmatched : after.signalsMatched = tally.signalsMatched)
    (hrested : after.entriesRested = tally.entriesRested)
    (hleft : after.entriesFilled + after.entriesExpired + after.entriesRefusedAtFill +
      after.entriesUnfilledAtEnd = tally.entriesFilled + tally.entriesExpired +
        tally.entriesRefusedAtFill + tally.entriesUnfilledAtEnd + 1)
    (hskipped : after.skipped = tally.skipped) (hexits : after.exits = tally.exits) :
    after.Coherent resting closedTrades := by
  refine ⟨?_, ?_, ?_, ?_, ?_⟩
  · rw [hmatched, hrested, hskipped]
    exact h.matched
  · have hsettled := h.settled
    omega
  · rw [hexits]
    exact h.exits
  · rw [hskipped]
    exact h.skippedCounted
  · rw [hexits]
    exact h.exitsCounted

end

/-! ## One product's turn -/

section

variable {others : Nat} {desk desk' : Desk} {candle : Candle} {offset : Nat}
  {strategy : StrategyDefinition} {costs : Costs} {bar : Duration}

theorem Desk.Coherent.holding {pending : PendingEntry} (hdesk : desk.Coherent others)
    (hpending : desk.book.pending = some pending) :
    desk.tally.Coherent (others + 1) desk.trades.length := by
  simpa [Desk.Coherent, Book.resting, hpending] using hdesk

theorem Desk.Coherent.idle (hdesk : desk.Coherent others) (hpending : desk.book.pending = none) :
    desk.tally.Coherent others desk.trades.length := by
  simpa [Desk.Coherent, Book.resting, hpending] using hdesk

theorem EntryMatch.coherent (hdesk : desk.Coherent others)
    (h : EntryMatch desk candle offset strategy costs desk') : desk'.Coherent others := by
  cases h with
  | idle => exact hdesk
  | waits hpending => exact hdesk.holding hpending
  | reprices hpending =>
    have hheld := hdesk.holding hpending
    exact ⟨hheld.matched, hheld.settled, hheld.exits, hheld.skippedCounted, hheld.exitsCounted⟩
  | expires hpending | refuses hpending | fills hpending =>
    exact coherent_leaves (hdesk.holding hpending) rfl rfl (by simp only [expireEntry]; omega) rfl rfl

variable {closing : Closing}

/-- An exit leaves the resting entry where it was. -/
theorem ExitOutcome.pending {cash : Decimal}
    (h : ExitOutcome feed book candle offset strategy costs cash bar closing) :
    closing.book.pending = book.pending := by
  cases h <;> rfl

theorem recordClose_coherent
    (hdesk : desk.tally.Coherent (others + closing.book.resting) desk.trades.length) :
    (recordClose desk closing strategy).Coherent others := by
  unfold recordClose
  split
  · exact hdesk
  next trade _ =>
    have hclosed := coherent_closed hdesk trade
    unfold Desk.Coherent
    rw [length_append]
    exact hclosed

theorem FundingOutcome.resting {book' : Book} {cash cash' : Decimal}
    (h : FundingOutcome book costs cash book' cash') : book'.resting = book.resting := by
  cases h <;> rfl

/-- The expiry flatten counts the entry it drops. -/
theorem expiredTally_coherent (hdesk : desk.Coherent others)
    (h : ExpiryOutcome desk candle costs bar closing) :
    (expiredTally desk).Coherent (others + closing.book.resting) desk.trades.length := by
  have hnone : closing.book.resting = 0 := by cases h <;> rfl
  rw [hnone]
  unfold expiredTally
  cases hpending : desk.book.pending with
  | none => exact hdesk.idle hpending
  | some => exact coherent_leaves (hdesk.holding hpending) rfl rfl (by simp; omega) rfl rfl

/-- A matched signal counts once: a rested entry, on a book that had none, or a skip. -/
theorem EntryRest.coherent {record : SignalTraceRecord} {limitPrice : Decimal}
    {mayOpenBook expiryWindow : Bool} (hdesk : desk.Coherent others)
    (h : EntryRest desk record strategy costs limitPrice mayOpenBook expiryWindow desk') :
    desk'.Coherent others := by
  cases h with
  | warmup =>
    exact ⟨hdesk.matched, hdesk.settled, hdesk.exits, hdesk.skippedCounted, hdesk.exitsCounted⟩
  | unmatched => exact hdesk
  | skips reason => exact coherent_skip hdesk reason
  | @rests pending hgate _ =>
    exact coherent_rested (hdesk.idle (entryGate_eq_none hgate).1) pending

theorem TurnStep.coherent {done todo : List Book} (hdesk : desk.Coherent others)
    (h : TurnStep sim offset feed candle done todo desk desk') : desk'.Coherent others := by
  cases h with
  | cools => exact hdesk
  | entry hmatch => exact hmatch.coherent hdesk
  | @exits closing hexit =>
    have hsame : closing.book.resting = desk.book.resting := by
      simp only [Book.resting, hexit.pending]
    exact recordClose_coherent (hsame ▸ hdesk)
  | funds hfunding =>
    unfold Desk.Coherent at hdesk ⊢
    rw [hfunding.resting]
    exact hdesk
  | flattens _ hexpiry => exact recordClose_coherent (expiredTally_coherent hdesk hexpiry)
  | rests hrest => exact hrest.coherent hdesk

end

/-! ## Runs -/

def restingEntries (books : List Book) : Nat := (books.map Book.resting).sum

theorem coherent_keptBySteps (sim : Simulation) :
    KeptBySteps sim (fun books account =>
      account.tally.Coherent (restingEntries books) account.trades.length) := by
  intro offset feed _ candle done todo desk desk' _ hstep hcoherent
  -- the other books' entries stand aside while this product takes its turn
  have hothers : ∀ book : Book, restingEntries (done ++ book :: todo) =
      restingEntries done + restingEntries todo + book.resting := by
    simp only [restingEntries, map_append, map_cons, sum_append, sum_cons]
    omega
  rw [hothers desk.book] at hcoherent
  rw [hothers desk'.book]
  exact hstep.coherent hcoherent

theorem initial_coherent (sim : Simulation) :
    sim.initial.tally.Coherent (restingEntries sim.initial.books) sim.initial.trades.length := by
  have hnone : restingEntries sim.initial.books = 0 := by
    apply sum_eq_zero
    intro count hcount
    obtain ⟨book, hbook, rfl⟩ := mem_map.mp hcount
    obtain ⟨feed, -, rfl⟩ := mem_map.mp hbook
    rfl
  rw [hnone]
  exact ⟨rfl, rfl, rfl, by simp [Simulation.initial, Dict.values, Dict.empty],
    by simp [Simulation.initial, Dict.values, Dict.empty]⟩

/-! ## The close-out -/

/-- Closing a book out counts the entry left on it. -/
theorem CloseOut.coherent {desk desk' : Desk} {others : Nat} (hdesk : desk.Coherent others)
    (h : CloseOut sim feed desk desk') : desk'.tally.Coherent others desk'.trades.length := by
  have hleft : (leftoverTally desk).Coherent others desk.trades.length := by
    unfold leftoverTally
    cases hpending : desk.book.pending with
    | none => exact hdesk.idle hpending
    | some => exact coherent_leaves (hdesk.holding hpending) rfl rfl (by simp; omega) rfl rfl
  cases h with
  | flat => exact hleft
  | @sells _ _ trade =>
    rw [length_append]
    exact coherent_closed hleft trade

theorem closeOutBooks_coherent {feeds : List BookFeed} {books books' : List Book}
    {account account' : Account} (hlength : books.length = feeds.length)
    (hcoherent : account.tally.Coherent (restingEntries books) account.trades.length)
    (h : closeOutBooks sim feeds books account = .ok (books', account')) :
    account'.tally.Coherent 0 account'.trades.length := by
  induction feeds generalizing books books' account with
  | nil =>
    obtain rfl := length_eq_zero_iff.mp hlength
    cases h
    exact hcoherent
  | cons _ _ ih =>
    cases books with
    | nil => simp at hlength
    | cons book books =>
      obtain ⟨desk, hdesk, h⟩ := bind_eq_ok h
      obtain ⟨⟨rest, final⟩, hrest, h⟩ := bind_eq_ok h
      cases h
      have hturn : Desk.Coherent (restingEntries books) { toAccount := account, book := book } := by
        have hsum : restingEntries (book :: books) = restingEntries books + book.resting := by
          simp only [restingEntries, map_cons, sum_cons]
          omega
        rw [hsum] at hcoherent
        exact hcoherent
      have hclosed := (closeOutBook_cases hdesk).coherent hturn
      exact ih (by simpa using hlength) hclosed hrest

/-! ## Diagnostics -/

/-- The members of `BacktestGateReason | EntrySkipReason`. -/
def SkipReason.all : List SkipReason :=
  [GateReason.pendingEntry, .cooldown, .maxPositions, .inPosition, .expiryWindow].map .gate ++
    [EntrySkipReason.entryPriceNotPositive, .stopDistanceNotPositive, .stopNotPositive,
      .targetNotPositive, .stopWithinPriceIncrement, .targetWithinPriceIncrement,
      .netTargetBelowMinimum, .economicsFeeUnavailable, .sizingCashUnavailable, .noOpenPosition,
      .insufficientCash, .notionalBelowMinimum, .quantityBelowVenueMinimum,
      .notionalBelowVenueMinimum, .belowOneContract].map .entry

theorem SkipReason.mem_all (reason : SkipReason) : reason ∈ SkipReason.all := by
  rcases reason with gate | skip
  · cases gate <;> decide
  · cases skip <;> decide

/-- The members of `BacktestExitReason`. -/
def ExitReason.all : List ExitReason :=
  [.stopLoss, .takeProfit, .timeExit, .signal, .evaluationEnd, .liquidation, .expiry]

theorem ExitReason.mem_all (reason : ExitReason) : reason ∈ ExitReason.all := by
  cases reason <;> decide

variable {κ : Type}

/-- Sorting counters keeps what they add up to, and which reasons they count. -/
theorem sorted_counts (entries : List (κ × Nat)) (order : κ × Nat → κ × Nat → Prop)
    [DecidableRel order] :
    ((entries.insertionSort order).map Prod.snd).sum = (entries.map Prod.snd).sum ∧
      ((entries.insertionSort order).map Prod.fst).Perm (entries.map Prod.fst) :=
  ⟨((entries.perm_insertionSort order).map Prod.snd).sum_eq,
    (entries.perm_insertionSort order).map Prod.fst⟩

theorem sorted_length_le (counters : Dict κ Nat) (order : κ × Nat → κ × Nat → Prop)
    [DecidableRel order] {all : List κ} (hall : ∀ reason, reason ∈ all) :
    (counters.entries.insertionSort order).length ≤ all.length := by
  have hkeys := (counters.nodup.subperm (fun reason _ => hall reason)).length_le
  rw [length_map] at hkeys
  rw [length_insertionSort]
  exact hkeys

theorem sorted_any_lt_one {counters : Dict κ Nat} (order : κ × Nat → κ × Nat → Prop)
    [DecidableRel order] (h : ∀ count ∈ counters.values, 1 ≤ count) :
    ((counters.entries.insertionSort order).map Prod.snd).any (· < 1) = false := by
  rw [any_eq_false]
  intro count hcount
  have hmem : count ∈ counters.values :=
    ((counters.entries.perm_insertionSort order).map Prod.snd).mem_iff.mp hcount
  have hone := h count hmem
  simp only [decide_eq_true_eq]
  omega

/-- Coherent counters with nothing left resting make valid diagnostics. -/
theorem diagnostics_of_coherent {tally : Tally} {closedTrades : Nat}
    (h : tally.Coherent 0 closedTrades) :
    ∃ diagnostics, tally.diagnostics = .ok diagnostics := by
  obtain ⟨hskipped, hskippedKeys⟩ := sorted_counts tally.skipped.entries
    (fun a b => a.1.value ≤ b.1.value)
  obtain ⟨-, hexitKeys⟩ := sorted_counts tally.exits.entries (fun a b => a.1.value ≤ b.1.value)
  have hskippedLength : (tally.skipped.entries.insertionSort
      (fun a b => a.1.value ≤ b.1.value)).length ≤ 32 :=
    (sorted_length_le tally.skipped _ SkipReason.mem_all).trans (by decide)
  have hexitsLength : (tally.exits.entries.insertionSort
      (fun a b => a.1.value ≤ b.1.value)).length ≤ 8 :=
    (sorted_length_le tally.exits _ ExitReason.mem_all).trans (by decide)
  have hmatched := h.matched
  have hsettled := h.settled
  unfold Tally.diagnostics BacktestDiagnostics.validated
  simp only
  rw [sorted_any_lt_one _ h.skippedCounted, sorted_any_lt_one _ h.exitsCounted,
    if_neg (by decide), if_neg (by omega), if_neg (by omega),
    if_neg (not_not_intro (hexitKeys.nodup_iff.mpr tally.exits.nodup)),
    if_neg (by rw [hskipped]; exact not_not_intro hmatched), if_neg (by omega),
    if_neg (not_not_intro (hskippedKeys.nodup_iff.mpr tally.skipped.nodup))]
  exact ⟨_, rfl⟩

/-- At the end of every run each matched signal rested an entry or counted one skip, each rested
entry is settled, each trade counted its exit reason, and the final diagnostics build. -/
theorem runSimulation_funnel {sim : Simulation} {final : RunState}
    (h : runSimulation sim = .ok final) :
    final.tally.signalsMatched = final.tally.entriesRested + final.tally.skipped.values.sum ∧
      final.tally.entriesRested = final.tally.entriesFilled + final.tally.entriesExpired +
        final.tally.entriesRefusedAtFill + final.tally.entriesUnfilledAtEnd ∧
      final.tally.exits.values.sum = final.trades.length ∧
      ∃ diagnostics, final.tally.diagnostics = .ok diagnostics := by
  obtain ⟨state, hstate, h⟩ := bind_eq_ok h
  obtain ⟨⟨books, account⟩, hclose, h⟩ := bind_eq_ok h
  obtain ⟨point, -, rfl⟩ := bind_pure_ok h
  have hrun := runBars_invariant (coherent_keptBySteps sim).turns (initial_coherent sim) hstate
  have hfinal := closeOutBooks_coherent (runBars_length hstate) hrun hclose
  exact ⟨hfinal.matched, hfinal.settled, hfinal.exits, diagnostics_of_coherent hfinal⟩

theorem hourlyHistory_funnel :
    ∃ sim final,
      backtestSimulation hourlyEngine hourlySpecification hourlyStrategy hourlyHistory none =
        .ok sim ∧
      runSimulation sim = .ok final ∧
      final.tally.signalsMatched = final.tally.entriesRested + final.tally.skipped.values.sum ∧
      ∃ diagnostics, final.tally.diagnostics = .ok diagnostics := by
  obtain ⟨final, hfinal⟩ := exists_eq_ok (show (do
      let sim ← backtestSimulation hourlyEngine hourlySpecification hourlyStrategy hourlyHistory none
      runSimulation sim).toOption.isSome = true by decide +kernel)
  obtain ⟨sim, hsim, hrun⟩ := bind_eq_ok hfinal
  obtain ⟨hmatched, -, -, hdiagnostics⟩ := runSimulation_funnel hrun
  exact ⟨sim, final, hsim, hrun, hmatched, hdiagnostics⟩

end Thytrader.Backtest
