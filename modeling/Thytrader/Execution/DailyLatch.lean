import Thytrader.Execution.BreakerScope

/-!
# The daily-loss latch after the trip

After a trip the latch is a fact about one row (`LatchedIn`). Fills, funding, leases and breaker
pauses rewrite the stored row and keep it; a save writes the caller's copy, so it keeps the latch
exactly when that copy carries it (`KeepsLatch`, `daily_loss_trip_latches`). `_pause` writes a
copy read earlier without a fence, and can clear a latch that no operator reset.
-/

namespace Thytrader.Execution

open Trading Risk Lib

/-! ## Later calls -/

def LatchedIn (store : MemoryStore) (mode : DeploymentMode) (quote : QuoteScope) : Prop :=
  ∃ id row, store.deployments.get? id = some row ∧ row.mode = mode ∧
    productQuote row.productId = some quote ∧ row.dailyLossLatched = true

/-- What the writers of rows promise: a new book has a fresh id, a saved one its stored mode
and product. -/
def KeepsBooks (store : MemoryStore) : StoreCall → Prop
  | .createDeployment deployment => store.deployments.get? deployment.id = none
  | .saveDeployment deployment _ _ => ∀ current,
      store.deployments.get? deployment.id = some current →
        deployment.mode = current.mode ∧ deployment.productId = current.productId
  | _ => True

def KeepsLatch (store : MemoryStore) : StoreCall → Prop
  | .saveDeployment deployment expectedRevision _ => ∀ current,
      store.deployments.get? deployment.id = some current →
        expectedRevision = none ∨ expectedRevision = some current.revision →
          current.dailyLossLatched = true → deployment.dailyLossLatched = true
  | _ => True

/-- One later store call. -/
structure LatchStep (store : MemoryStore) (call : StoreCall) (next : MemoryStore) : Prop where
  books : KeepsBooks store call
  latch : KeepsLatch store call
  run : next = call.run store

variable {mode : DeploymentMode} {quote : QuoteScope}

section

variable {store : MemoryStore}
variable {next : MemoryStore} {call : StoreCall}

theorem LatchStep.rows (hkeyed : DeploymentsKeyed store) (h : LatchStep store call next) :
    next.deployments = store.deployments ∨
      ∃ row, next.deployments = store.deployments.set row.id row ∧
        ∀ current, store.deployments.get? row.id = some current → SameBook current row := by
  obtain ⟨hbooks, hlatch, rfl⟩ := h
  rcases call.run_rows hkeyed with hsame | ⟨row, hset, hwrite⟩
  · exact .inl hsame
  · refine .inr ⟨row, hset, ?_⟩
    intro stored hstored
    cases hwrite with
    | created => cases (hbooks.symm.trans hstored)
    | @saved deployment current _ _ hcurrent hexpected hrow =>
      subst hrow
      obtain rfl := Option.some.inj (hcurrent.symm.trans hstored)
      obtain ⟨hmode, hproduct⟩ := hbooks current hcurrent
      exact ⟨hmode, hproduct, hlatch current hcurrent hexpected⟩
    | rewritten hcurrent hsame =>
      obtain rfl := Option.some.inj (hcurrent.symm.trans hstored)
      exact hsame

/-- What a run keeps: rows under their ids, and a latched book in the scope. -/
structure LatchInv (mode : DeploymentMode) (quote : QuoteScope) (store : MemoryStore) : Prop where
  keyed : DeploymentsKeyed store
  latched : LatchedIn store mode quote

theorem LatchInv.step (hinv : LatchInv mode quote store) (h : LatchStep store call next) :
    LatchInv mode quote next := by
  refine ⟨by rw [h.run]; exact call.run_deploymentsKeyed hinv.keyed, ?_⟩
  obtain ⟨id, latched, hlatched, hmode, hquote, hflag⟩ := hinv.latched
  rcases h.rows hinv.keyed with hsame | ⟨row, hset, hkept⟩
  · exact ⟨id, latched, by rw [hsame]; exact hlatched, hmode, hquote, hflag⟩
  · by_cases hid : id = row.id
    · subst hid
      have hsame := hkept latched hlatched
      exact ⟨row.id, row, by rw [hset, Dict.get?_set_self], hsame.mode.trans hmode,
        by rw [hsame.productId]; exact hquote, hsame.latch hflag⟩
    · exact ⟨id, latched, by rw [hset, Dict.get?_set_ne hid, hlatched], hmode, hquote, hflag⟩

end

/-! ## The verdict -/

def latchedDenial : Objection :=
  denyText .dailyLossLimit "Daily-loss breaker is latched until an explicit operator reset."

/-- A latched book of the scope is among the books that the daily-loss verdict is read from. -/
theorem latched_denies {store : MemoryStore} (hinv : LatchInv mode quote store)
    (hreadable : ∀ other row, store.deployments.get? other = some row → row.mode = mode →
      bookQuote store other ≠ none) (evidence : OpeningEvidence) :
    ∃ loaded, accountingPortfolio store evidence = .ok loaded ∧
      ∀ policy productId strategyId observation capital, productQuote productId = some quote →
        evaluateCircuitBreakers policy mode productId strategyId loaded observation capital =
          latchedDenial := by
  obtain ⟨loaded, hloaded, hshows, hall⟩ := accountingPortfolio_shows hinv.keyed evidence
  refine ⟨loaded, hloaded, ?_⟩
  intro policy productId strategyId observation capital hproduct
  have hquotes : ∀ item ∈ dailyLossSnapshots loaded mode, snapshotQuote item ≠ none := by
    intro item hitem
    obtain ⟨hmem, hmode⟩ := List.mem_filter.mp hitem
    obtain ⟨row, hrow, hsame, -⟩ := (hshows item hmem).row
    rw [(hshows item hmem).quote]
    exact hreadable _ row hrow (hsame ▸ (of_decide_eq_true hmode).1)
  obtain ⟨id, row, hrow, hmode, hquote, hflag⟩ := hinv.latched
  obtain ⟨item, hitem, rfl⟩ := hall id row hrow
  obtain ⟨stored, hstored, hitemMode, hitemProduct, hitemFlag⟩ := (hshows item hitem).row
  cases hrow.symm.trans hstored
  have hdaily : item ∈ dailyLossSnapshots loaded mode := by
    refine List.mem_filter.mpr ⟨hitem, decide_eq_true ⟨hitemMode.trans hmode, ?_⟩⟩
    cases item.deployment.status with
    | running | paused | stopped => rfl
  have hscope : snapshotQuote item = some quote :=
    snapshotQuote_own (hquotes item hdaily) (by rw [hitemProduct, hquote])
  unfold evaluateCircuitBreakers
  rw [hproduct]
  dsimp only
  rw [sameQuoteBooks_of_readable _ hquotes]
  unfold withBooks
  dsimp only
  have hverdict : dailyLatchVerdict ((dailyLossSnapshots loaded mode).filter
      (fun item => snapshotQuote item = some quote)) = latchedDenial := by
    unfold dailyLatchVerdict Check.require
    rw [if_neg]
    · rfl
    · intro hnone
      have hunlatched := List.all_eq_true.mp hnone item
        (List.mem_filter.mpr ⟨hdaily, decide_eq_true hscope⟩)
      rw [hitemFlag, hflag] at hunlatched
      cases hunlatched
  rw [hverdict]
  rfl

/-- A daily-loss trip stops its mode and quote scope, latches a book of it and leaves the others; in
every later run whose saves keep the latch, the breakers replay it. -/
theorem daily_loss_trip_latches {store : MemoryStore} {id : Uuid} {trip : Deployment}
    {quote : QuoteScope} {portfolio : List Uuid} (hkeyed : DeploymentsKeyed store)
    (h : TripContext store id trip quote portfolio) (text : String) (draws : TripDraws) :
    ∃ snapshot after,
      pauseForBreaker store id portfolio .dailyLoss text draws = (.ok snapshot, after) ∧
      (∀ other row, after.deployments.get? other = some row → row.mode = trip.mode →
        bookQuote after other = some quote → row.status ≠ .running) ∧
      (∃ other row, InScope after trip.mode quote other ∧
        after.deployments.get? other = some row ∧ row.dailyLossLatched = true) ∧
      (∀ other before, store.deployments.get? other = some before → before.status = .stopped →
        ∃ row, after.deployments.get? other = some row ∧ row.status = .stopped) ∧
      (∀ other, ¬ InScope store trip.mode quote other →
        after.getDeployment other = store.getDeployment other) ∧
      ∀ later, Reachable (· = after) LatchStep later →
        (∀ other row, later.deployments.get? other = some row → row.mode = trip.mode →
          bookQuote later other ≠ none) →
        ∀ evidence, ∃ loaded, accountingPortfolio later evidence = .ok loaded ∧
          ∀ policy productId strategyId observation capital, productQuote productId = some quote →
            evaluateCircuitBreakers policy trip.mode productId strategyId loaded observation
              capital = latchedDenial := by
  obtain ⟨snapshot, after, hrun, hcalmer, htouched, hstopped, row, hrow, hflag⟩ :=
    pauseForBreaker_effect hkeyed h text draws
  obtain ⟨found, hfound, hsame⟩ := hcalmer.rows id trip h.row
  cases hrow.symm.trans hfound
  refine ⟨snapshot, after, hrun, ?_, ⟨id, row, h.inScope.calmer hcalmer, hrow, hflag⟩, ?_, htouched,
    ?_⟩
  · intro other stored hstored hmode hquote
    have hscope : InScope after trip.mode quote other := ⟨⟨stored, hstored, hmode⟩, hquote⟩
    obtain ⟨last, hlast, hstatus⟩ := hstopped other (hscope.of_calmer hcalmer)
    cases hstored.symm.trans hlast
    exact hstatus
  · intro other before hbefore hstatus
    obtain ⟨last, hlast, hkept⟩ := hcalmer.rows other before hbefore
    refine ⟨last, hlast, ?_⟩
    rw [hkept.status (by rw [hstatus]; simp), hstatus]
  · intro later hlater hreadable evidence
    have hinv : LatchInv trip.mode quote later := by
      refine Reachable.invariant (LatchInv trip.mode quote) ?_ ?_ hlater
      · intro start hstart
        subst hstart
        exact ⟨hcalmer.keyed hkeyed, id, row, hrow, hsame.mode, by rw [hsame.productId]; exact h.quote,
          hflag⟩
      · intro before call next hinv hstep
        exact hinv.step hstep
    exact latched_denies hinv hreadable evidence

/-! ## A desk book -/

/-- A running discretionary paper book, opened today. -/
def deskBook : Deployment :=
  { sampleDeployment with kind := .discretionary, initialEquity := some 1000 }

def deskStore : MemoryStore := MemoryStore.empty.createDeployment deskBook

def deskDraws : TripDraws :=
  { latchedAt := 5, pausedAt := 5, peerAt := fun _ => 6, evidence := fun _ => none }

/-- A policy with the default breaker limits. -/
def deskPolicy : RiskPolicyDefinition where
  maxConcurrentOpenPositions := 4
  maxPortfolioExposureFraction := 1 / 2
  perProductMaxExposureFraction := 2 / 5
  paperCapitalQuote := 10000
  allocations := []
  valid := by decide +kernel

def deskObservation : EntryObservation :=
  { asOf := 10, proposedPrice := some 100, referencePrice := some 100, marks := Dict.empty }

def deskTripped : MemoryStore := (pauseForBreaker deskStore 1 [] .dailyLoss "Loss." deskDraws).2

theorem deskStore_row {other : Uuid} {row : Deployment}
    (h : deskStore.deployments.get? other = some row) : other = 1 ∧ row = deskBook := by
  have hset : deskStore.deployments.get? other = if other = 1 then some deskBook else none :=
    Dict.get?_set ..
  rw [hset] at h
  obtain ⟨hid, h⟩ := of_ite_ne_else h nofun
  exact ⟨hid, (Option.some.inj h).symm⟩

theorem deskStore_keyed : DeploymentsKeyed deskStore := by
  intro id row hrow
  obtain ⟨rfl, rfl⟩ := deskStore_row hrow
  rfl

theorem deskStore_context : TripContext deskStore 1 deskBook (.spot .usd) [] where
  row := by decide +kernel
  quote := by decide +kernel
  readable := by
    intro other row hrow _
    obtain ⟨rfl, -⟩ := deskStore_row hrow
    decide +kernel
  known := by simp

/-- The desk's trip, and the denial of its next entry. -/
theorem daily_loss_trip_latches_desk :
    (∃ row, deskTripped.deployments.get? 1 = some row ∧ row.status ≠ .running ∧
      row.dailyLossLatched = true) ∧
    ∃ loaded, accountingPortfolio deskTripped (fun _ => none) = .ok loaded ∧
      evaluateCircuitBreakers deskPolicy .paper "BTC-USD" none loaded deskObservation 1000 =
        latchedDenial := by
  obtain ⟨snapshot, after, hrun, -, -, -, htouched, hlater⟩ := daily_loss_trip_latches
    deskStore_keyed deskStore_context "Loss." deskDraws
  obtain rfl : after = deskTripped := by
    unfold deskTripped
    rw [hrun]
  refine ⟨by decide +kernel, ?_⟩
  have hreadable : ∀ other row, deskTripped.deployments.get? other = some row →
      row.mode = deskBook.mode → bookQuote deskTripped other ≠ none := by
    intro other row hrow _
    have hone : other = 1 := by
      -- no book but the desk's was there before, and the trip touches no other
      by_contra hne
      obtain ⟨read, hread, -⟩ := getDeployment_eq hrow
      rw [htouched other (fun hscope => by
        obtain ⟨stored, hstored, -⟩ := hscope.row
        exact hne (deskStore_row hstored).1)] at hread
      exact hne (deskStore_row (MemoryStore.getDeployment_ok hread).1).1
    subst hone
    decide +kernel
  obtain ⟨loaded, hloaded, hdenied⟩ := hlater deskTripped (.start rfl) hreadable (fun _ => none)
  exact ⟨loaded, hloaded, hdenied _ _ _ _ _ (by decide +kernel)⟩

/-- `_pause_on_breaker` of another order's drawdown verdict pauses the snapshot it read before the
trip: the stale row clears the latch and the next entry passes. -/
theorem stale_pause_unlatches :
    ∃ snapshot, deskStore.getDeployment 1 = .ok snapshot ∧
      (∃ row, deskTripped.deployments.get? 1 = some row ∧ row.dailyLossLatched = true) ∧
      (accountingPortfolio (pause deskTripped snapshot
          "STRATEGY_DRAWDOWN_LIMIT: Per-strategy fill-ledger drawdown reached the risk-policy limit."
            9).2 (fun _ => none)).map
        (fun loaded => evaluateCircuitBreakers deskPolicy .paper "BTC-USD" none loaded
          deskObservation 1000) = .ok .pass := by
  refine ⟨{ deployment := deskBook }, ?_, ?_, ?_⟩
  · decide +kernel
  · decide +kernel
  · decide +kernel

end Thytrader.Execution
