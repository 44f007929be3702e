import Thytrader.Execution.BarLoop
import Thytrader.Execution.ScopedLens

/-!
# The cursor of a single-product book

What the store's calls make of `last_evaluated_bar` while every runtime row of the book is its
own product's: the shared row and the scoped view then show one cursor, and only the save that
ends a bar moves it (`cursorProtocol`). `process_closed_bar` follows that protocol: it leaves the
cursor, or moves it to the newest bar of its window and logs that bar once.
-/

namespace Thytrader.Execution

open Trading Lib MemoryStore Follows
open MarketData (Candle)

/-! ## Calls that keep the cursor -/

/-- One product to the book, at this cursor. -/
structure SingleBook (id : Uuid) (productId : String) (cursor : Option Time)
    (store : MemoryStore) : Prop where
  keyed : DeploymentsKeyed store
  runtimes : ∀ key runtime, store.instrumentRuntimes.get? key = some runtime → key.1 = id →
    runtime.productId = productId
  row : ∃ row, store.deployments.get? id = some row ∧ row.productId = productId ∧
    row.lastEvaluatedBar = cursor

/-- A row of the book with its product and its cursor; rows of other books are free. -/
def KeepsRow (id : Uuid) (productId : String) (cursor : Option Time) (row : Deployment) : Prop :=
  row.id = id → row.productId = productId ∧ row.lastEvaluatedBar = cursor

/-- The calls of the book's own product that write no other cursor. -/
def KeepsCursor (id : Uuid) (productId : String) (cursor : Option Time) : StoreCall → Prop
  | .createDeployment deployment => deployment.id ≠ id
  | .saveDeployment row _ instrumentRuntime =>
    KeepsRow id productId cursor row ∧
      (row.id = id → ∀ runtime ∈ instrumentRuntime, runtime.productId = productId)
  | .saveInstrumentRuntime runtime deploymentId =>
    deploymentId = id → runtime.productId = productId
  | .applyFill call =>
    call.deploymentId = id → orBlank call.order.productId productId = productId
  | _ => True

section

variable {id : Uuid} {productId : String} {cursor : Option Time} {store next : MemoryStore}

theorem SingleBook.frame (h : SingleBook id productId cursor store)
    (hdeployments : next.deployments = store.deployments)
    (hruntimes : next.instrumentRuntimes = store.instrumentRuntimes) :
    SingleBook id productId cursor next := by
  obtain ⟨hkeyed, hown, hrow⟩ := h
  refine ⟨?_, ?_, ?_⟩
  · unfold DeploymentsKeyed
    rw [hdeployments]
    exact hkeyed
  · rw [hruntimes]
    exact hown
  · rw [hdeployments]
    exact hrow

variable {moved : Option Time} {runtime : InstrumentRuntime}

section

variable (h : SingleBook id productId cursor store)
include h

theorem SingleBook.setRow {row : Deployment}
    (hrow : KeepsRow id productId moved row) (hmoved : row.id ≠ id → moved = cursor)
    (hdeployments : next.deployments = store.deployments.set row.id row)
    (hruntimes : next.instrumentRuntimes = store.instrumentRuntimes) :
    SingleBook id productId moved next := by
  obtain ⟨hkeyed, hown, stored, hstored, hproduct, hcursor⟩ := h
  refine ⟨Dict.forall_set hdeployments rfl hkeyed, ?_, ?_⟩
  · rw [hruntimes]
    exact hown
  · rw [hdeployments]
    by_cases hid : row.id = id
    · refine ⟨row, ?_, hrow hid⟩
      rw [← hid]
      exact Dict.get?_set_self ..
    · refine ⟨stored, ?_, hproduct, hcursor.trans (hmoved hid).symm⟩
      rw [Dict.get?_set, if_neg (fun heq => hid heq.symm)]
      exact hstored

theorem SingleBook.setRuntime {owner : Uuid}
    {key : String} (hown : owner = id → runtime.productId = productId)
    (hdeployments : next.deployments = store.deployments)
    (hruntimes : next.instrumentRuntimes = store.instrumentRuntimes.set (owner, key) runtime) :
    SingleBook id productId cursor next := by
  refine ⟨?_, ?_, by rw [hdeployments]; exact h.row⟩
  · unfold DeploymentsKeyed
    rw [hdeployments]
    exact h.keyed
  · exact Dict.forall_set hruntimes hown h.runtimes

theorem SingleBook.rewrite {current : Deployment}
    (row : Deployment) (hcurrent : store.deployments.get? row.id = some current)
    (hproduct : row.productId = current.productId)
    (hcursor : row.lastEvaluatedBar = current.lastEvaluatedBar)
    (hdeployments : next.deployments = store.deployments.set row.id row)
    (hruntimes : next.instrumentRuntimes = store.instrumentRuntimes) :
    SingleBook id productId cursor next := by
  refine h.setRow ?_ (fun _ => rfl) hdeployments hruntimes
  intro hid
  obtain ⟨stored, hstored, hown, hbar⟩ := h.row
  rw [hid, hstored] at hcurrent
  cases hcurrent
  exact ⟨hproduct.trans hown, hcursor.trans hbar⟩

theorem SingleBook.save {row : Deployment}
    {expectedRevision : Option Int} {instrumentRuntime : Option InstrumentRuntime}
    (hrow : KeepsRow id productId moved row) (hmoved : row.id ≠ id → moved = cursor)
    (hruntime : row.id = id → ∀ runtime ∈ instrumentRuntime, runtime.productId = productId) :
    (∃ saved after, store.saveDeployment row expectedRevision instrumentRuntime =
        (.ok saved, after) ∧ SingleBook id productId moved after) ∨
      ∃ failure, store.saveDeployment row expectedRevision instrumentRuntime =
        (.error failure, store) := by
  unfold saveDeployment
  split
  · exact .inr ⟨_, rfl⟩
  · split
    · exact .inr ⟨_, rfl⟩
    next current hcurrent =>
      split
      · exact .inr ⟨_, rfl⟩
      · have hsaved : KeepsRow id productId moved (row.withRevision (current.revision + 1)) :=
          fun hid => hrow hid
        have hput : SingleBook id productId moved
            (store.putDeployment (row.withRevision (current.revision + 1))) :=
          h.setRow hsaved hmoved rfl rfl
        cases instrumentRuntime with
        | some runtime =>
          refine .inl ⟨_, _, rfl, hput.setRuntime (fun hid => ?_) rfl rfl⟩
          exact hruntime hid runtime rfl
        | none =>
          refine .inl ⟨_, _, rfl, ?_⟩
          unfold mirrorRuntime
          dsimp only
          split
          · exact hput.setRuntime (fun hid => (hrow hid).1) rfl rfl
          · exact hput

theorem SingleBook.read :
    ∃ snapshot, store.getDeployment id = .ok snapshot ∧ snapshot.deployment.id = id ∧
      snapshot.deployment.productId = productId ∧
      snapshot.deployment.lastEvaluatedBar = cursor ∧
      ∀ runtime ∈ snapshot.instrumentRuntimes, runtime.productId = productId := by
  obtain ⟨row, hrow, hproduct, hcursor⟩ := h.row
  obtain ⟨snapshot, hread, hdeployment⟩ := getDeployment_of_row hrow
  refine ⟨snapshot, hread, ?_, ?_, ?_, ?_⟩
  · rw [hdeployment]
    exact h.keyed id row hrow
  · rw [hdeployment]
    exact hproduct
  · rw [hdeployment]
    exact hcursor
  · intro runtime hruntime
    unfold getDeployment at hread
    rw [hrow] at hread
    cases hread
    obtain ⟨entry, hentry, rfl⟩ := List.mem_map.mp hruntime
    rw [List.mem_filter] at hentry
    exact h.runtimes entry.1 entry.2 (Dict.get?_eq_some_iff.mpr hentry.1) (of_decide_eq_true hentry.2)

section

variable {call : FillCall}
  (hcall : call.deploymentId = id → orBlank call.order.productId productId = productId)
include hcall

theorem SingleBook.fillRow :
    (call.run store).2.deployments = store.deployments ∨
      ∃ row, (call.run store).2.deployments = store.deployments.set row.id row ∧
        KeepsRow id productId cursor row := by
  obtain hsame | ⟨snapshot, projected, source, stamped, hsnapshot, hprojected, hid, hown, hrows⟩ :=
    call.run_row h.keyed
  · exact .inl hsame
  · refine .inr ⟨(fillProjectionDeployment snapshot projected).withRevision
      (snapshot.deployment.revision + 1), hrows.trans (by rw [← hown]; rfl), ?_⟩
    intro hbook
    obtain rfl : call.deploymentId = id := hown.symm.trans hbook
    obtain ⟨row, hrow, hproduct, hcursor⟩ := h.row
    obtain rfl := Option.some.inj (hrow.symm.trans (getDeployment_ok hsnapshot).1)
    have hresolved : resolvedProductId call.order.productId snapshot.deployment =
        snapshot.deployment.productId := by
      unfold resolvedProductId
      rw [hproduct]
      exact hcall rfl
    exact ⟨(fillProjectionDeployment_sameBook hprojected).productId.trans hproduct,
      (fillProjectionDeployment_lastEvaluatedBar hprojected hresolved).trans hcursor⟩

theorem SingleBook.fillRuntimes {key : Uuid × String}
    (hget : (call.run store).2.instrumentRuntimes.get? key = some runtime) (hkey : key.1 = id) :
    runtime.productId = productId := by
  obtain hsame | ⟨snapshot, projected, hread, hlist, hset⟩ := FillCall.run_runtimes call store
  · rw [hsame] at hget
    exact h.runtimes key runtime hget hkey
  · rw [hset] at hget
    by_cases hcalled : call.deploymentId = id
    · obtain hmem | ⟨hstored, -⟩ := Dict.mem_of_get?_foldl_set (fun runtime : InstrumentRuntime =>
        (call.deploymentId, runtime.productId)) hget
      · rw [hlist, projectedRuntimes] at hmem
        split at hmem
        · cases hmem
        · obtain ⟨own, hread', -, hproduct, -, hrows⟩ := h.read
          rw [hcalled, hread'] at hread
          obtain rfl := Except.ok.inj hread
          obtain hsibling | hown := List.mem_append.mp hmem
          · exact hrows runtime (List.mem_filter.mp hsibling).1
          · obtain rfl := List.mem_singleton.mp hown
            unfold resolvedProductId
            rw [hproduct]
            exact hcall hcalled
      · exact h.runtimes key runtime hstored hkey
    · -- another book's fill assigns no key of this one
      rw [Dict.get?_foldl_set_of_stored (fun runtime : InstrumentRuntime =>
        (call.deploymentId, runtime.productId))] at hget
      · exact h.runtimes key runtime hget hkey
      · intro row _ hrow
        rw [← hrow] at hkey
        exact absurd hkey hcalled

end

theorem SingleBook.call {call : StoreCall} (hcall : KeepsCursor id productId cursor call) :
    SingleBook id productId cursor (call.run store) := by
  have hleft := call.run_leaves store
  generalize call.run store = next at hleft ⊢
  cases hleft with
  | refused => exact h
  | created deployment =>
    have hrow : KeepsRow id productId cursor deployment := fun hid => absurd hid hcall
    exact h.setRow hrow (fun _ => rfl) rfl rfl
  | @saved row _ expectedRevision instrumentRuntime _ _ _ hrun =>
    obtain ⟨saved, after, hsaved, hafter⟩ | ⟨failure, hsaved⟩ :=
      @SingleBook.save id productId cursor store cursor h row expectedRevision instrumentRuntime
        hcall.1 (fun _ => rfl) hcall.2
    · rw [(Prod.mk.inj (hrun.symm.trans hsaved)).2]
      exact hafter
    · rw [(Prod.mk.inj (hrun.symm.trans hsaved)).2]
      exact h
  | paused hcurrent =>
    obtain rfl := h.keyed _ _ hcurrent
    exact h.rewrite (breakerPaused _ _ _ _) hcurrent rfl rfl rfl rfl
  | leased hcurrent =>
    obtain rfl := h.keyed _ _ hcurrent
    exact h.rewrite (leasedRow _ _ _ _) hcurrent rfl rfl rfl rfl
  | inserted | filled | positioned => exact h.frame rfl rfl
  | restored order =>
    exact h.frame (replaceOrder_frame store order).2 (replaceOrder_books store order).1
  | ordered =>
    exact h.frame (replaceOrder_frame store _).2 (replaceOrder_books store _).1
  | runtime => exact h.setRuntime hcall rfl rfl
  | applied call =>
    have hruntimes : SingleBook id productId cursor
        { store with instrumentRuntimes := (call.run store).2.instrumentRuntimes } :=
      ⟨h.keyed, fun key runtime hget hkey => h.fillRuntimes hcall hget hkey, h.row⟩
    obtain hsame | ⟨row, hset, hrow⟩ := h.fillRow hcall
    · exact hruntimes.frame hsame rfl
    · exact hruntimes.setRow hrow (fun _ => rfl) hset rfl
  | funded hcurrent =>
    obtain rfl := h.keyed _ _ hcurrent
    exact h.rewrite (fundedRow _ _) hcurrent rfl rfl rfl rfl

end

end

/-! ## The protocol -/

/-- A book's cursor, and the bars logged so far. -/
structure BarState where
  cursor : Option Time
  evaluated : List EvaluatedBar

def BarState.complete (state : BarState) (bar : EvaluatedBar) : BarState :=
  { cursor := some bar.bar, evaluated := bar :: state.evaluated }

structure BarState.Holds (id : Uuid) (productId : String) (state : BarState) (log : BarLog) :
    Prop where
  book : SingleBook id productId state.cursor log.store
  evaluated : log.evaluated = state.evaluated

/-- Only the save that ends a bar moves the cursor, and it moves it to that bar. -/
def cursorProtocol (id : Uuid) (productId : String) : Protocol BarOp BarOp.Answer BarState where
  require state op :=
    match op with
    | .look => True
    | .write call => KeepsCursor id productId state.cursor call
    | .completeBar bar row _ instrumentRuntime =>
      row.id = id ∧ row.productId = productId ∧ row.lastEvaluatedBar = some bar.bar ∧
        ∀ runtime ∈ instrumentRuntime, runtime.productId = productId
  answers state op answer :=
    match op, answer with
    | .look, store => SingleBook id productId state.cursor store
    | .write _, _ => True
    | .completeBar _ _ _ _, _ => True
  learn state op answer :=
    match op, answer with
    | .look, _ => state
    | .write _, _ => state
    | .completeBar bar _ _ _, .ok _ => state.complete bar
    | .completeBar _ _ _ _, .error _ => state

section

variable {id : Uuid} {productId : String}

/-- The store plays by the protocol. -/
theorem cursorProtocol_sound (state : BarState) (log : BarLog) (op : BarOp)
    (h : state.Holds id productId log) (hrequire : (cursorProtocol id productId).require state op) :
    (cursorProtocol id productId).answers state op (execBar op log).1 ∧
      ((cursorProtocol id productId).learn state op (execBar op log).1).Holds id productId
        (execBar op log).2 := by
  cases op with
  | look => exact ⟨h.book, h⟩
  | write call => exact ⟨trivial, h.book.call hrequire, h.evaluated⟩
  | completeBar bar row expectedRevision instrumentRuntime =>
    refine ⟨trivial, ?_⟩
    obtain ⟨hid, hproduct, hbar, hruntime⟩ := hrequire
    obtain ⟨saved, after, hrun, hafter⟩ | ⟨failure, hrun⟩ :=
      @SingleBook.save id productId state.cursor log.store (some bar.bar) h.book row
        expectedRevision instrumentRuntime (fun _ => ⟨hproduct, hbar⟩)
        (fun hother => absurd hid hother) (fun _ => hruntime)
    · simp only [execBar, hrun]
      exact ⟨hafter, congrArg (bar :: ·) h.evaluated⟩
    · simp only [execBar, hrun]
      exact h

end

/-! ## Reads and saves -/

structure ShowsBar (id : Uuid) (productId : String) (state : BarState)
    (snapshot : DeploymentSnapshot) : Prop where
  id : snapshot.deployment.id = id
  productId : snapshot.deployment.productId = productId
  cursor : snapshot.deployment.lastEvaluatedBar = state.cursor

/-- The shared store, or the book's own scope over it. -/
inductive OwnView (productId : String) : StoreView → Prop where
  | shared : OwnView productId .shared
  | product : OwnView productId (.product productId)

/-- A part of a cycle that leaves the cursor and returns the book. -/
def KeepsBar (id : Uuid) (productId : String) (state : BarState)
    (program : Bars DeploymentSnapshot) : Prop :=
  Follows (cursorProtocol id productId) state program
    (fun after snapshot => after = state ∧ ShowsBar id productId after snapshot)
    (fun after => after = state)

section

variable {id : Uuid} {productId : String} {state : BarState} {view : StoreView}
variable {snapshot : DeploymentSnapshot}

theorem KeepsBar.pure (h : ShowsBar id productId state snapshot) :
    KeepsBar id productId state (Pure.pure snapshot) := ⟨rfl, h⟩

theorem KeepsBar.bind {program : Bars DeploymentSnapshot}
    {rest : DeploymentSnapshot → Bars DeploymentSnapshot} (h : KeepsBar id productId state program)
    (hrest : ∀ snapshot, ShowsBar id productId state snapshot →
      KeepsBar id productId state (rest snapshot)) :
    KeepsBar id productId state (program >>= rest) := by
  refine Follows.bind h ?_
  intro after snapshot hpost
  obtain ⟨rfl, hshows⟩ := hpost
  exact hrest snapshot hshows

theorem mirrors_own (hproduct : snapshot.deployment.productId = productId)
    (hrows : ∀ runtime ∈ snapshot.instrumentRuntimes, runtime.productId = productId) :
    mirrorsPrimaryRuntime snapshot.deployment snapshot.instrumentRuntimes = true := by
  unfold mirrorsPrimaryRuntime
  rw [List.all_eq_true]
  intro runtime hruntime
  rw [hproduct]
  exact decide_eq_true (hrows runtime hruntime)

/-- The scope of a single-product book shows the shared row's cursor. -/
theorem overlaySnapshot_shows (h : ShowsBar id productId state snapshot)
    (hrows : ∀ runtime ∈ snapshot.instrumentRuntimes, runtime.productId = productId) :
    ShowsBar id productId state (overlaySnapshot snapshot productId) := by
  refine ⟨h.id, h.productId, ?_⟩
  show (runtimeFor snapshot productId).lastEvaluatedBar = state.cursor
  unfold runtimeFor
  rw [if_pos ⟨h.productId.symm, mirrors_own h.productId hrows⟩]
  exact h.cursor

theorem read_keeps (hview : OwnView productId view) :
    KeepsBar id productId state (view.read id) := by
  refine ⟨trivial, fun store hstore => ?_⟩
  obtain ⟨snapshot, hread, hid, hproduct, hcursor, hrows⟩ := SingleBook.read hstore
  have hshows : ShowsBar id productId state snapshot := ⟨hid, hproduct, hcursor⟩
  show Follows _ _ (Program.bind (Program.ofExcept (store.getDeployment id)) _) _ _
  rw [hread]
  cases hview with
  | shared => exact ⟨rfl, hshows⟩
  | product => exact ⟨rfl, overlaySnapshot_shows hshows hrows⟩

theorem merged_row {store : MemoryStore} (hstore : SingleBook id productId state.cursor store)
    (hview : OwnView productId view) {row : Deployment} (hid : row.id = id)
    (hproduct : row.productId = productId) :
    ∃ parent expectedRevision instrumentRuntime,
      view.merged store row = .ok (parent, expectedRevision, instrumentRuntime) ∧
      parent.id = id ∧ parent.productId = productId ∧
      parent.lastEvaluatedBar = row.lastEvaluatedBar ∧
      ∀ runtime ∈ instrumentRuntime, runtime.productId = productId := by
  cases hview with
  | shared => exact ⟨row, none, none, rfl, hid, hproduct, rfl, by simp⟩
  | product =>
    obtain ⟨current, hread, hcurrent, hown, -, hrows⟩ := SingleBook.read hstore
    refine ⟨scopedParent current row productId, some (scopedExpected row none),
      some (runtimeFromDeployment row productId), ?_, ?_, ?_, ?_, ?_⟩
    · unfold StoreView.merged
      rw [hid, hread]
      rfl
    · rw [(scopedParent_fields current row productId).1]
      exact hcurrent
    · rw [scopedParent_productId]
      exact hown
    · unfold scopedParent
      rw [if_pos ⟨hown.symm, mirrors_own hown hrows⟩]
      rfl
    · intro runtime hruntime
      cases hruntime
      rfl

section

variable (hview : OwnView productId view) {row : Deployment} (hid : row.id = id)
  (hproduct : row.productId = productId) (hcursor : row.lastEvaluatedBar = state.cursor)
include hview hid hproduct hcursor

theorem save_keeps :
    Follows (cursorProtocol id productId) state (view.save row) (fun after _ => after = state)
      (fun after => after = state) := by
  refine ⟨trivial, fun store hstore => ?_⟩
  obtain ⟨parent, expectedRevision, instrumentRuntime, hmerged, hparent, hown, hbar, hruntime⟩ :=
    merged_row hstore hview hid hproduct
  show Follows _ _ (Program.bind (Program.ofExcept (view.merged store row)) _) _ _
  rw [hmerged]
  refine ⟨⟨fun _ => ⟨hown, hbar.trans hcursor⟩, fun _ => hruntime⟩, fun _ _ => ?_⟩
  exact ofExcept (fun _ _ => rfl) (fun _ _ => rfl)

theorem saveAndRead_keeps :
    KeepsBar id productId state (view.saveAndRead row) := by
  refine bind (save_keeps hview hid hproduct hcursor) ?_
  intro after saved hafter
  obtain rfl := hafter
  rw [hid]
  exact read_keeps hview

end

/-- The save that ends a bar logs it, or raises and leaves the book. -/
theorem saveEvaluated_follows (hview : OwnView productId view) {bar : EvaluatedBar}
    {row : Deployment} (hid : row.id = id) (hproduct : row.productId = productId)
    (hcursor : row.lastEvaluatedBar = some bar.bar) :
    Follows (cursorProtocol id productId) state (view.saveEvaluated bar row)
      (fun after _ => after = state.complete bar) (fun after => after = state) := by
  refine ⟨trivial, fun store hstore => ?_⟩
  obtain ⟨parent, expectedRevision, instrumentRuntime, hmerged, hparent, hown, hbar, hruntime⟩ :=
    merged_row hstore hview hid hproduct
  show Follows _ _ (Program.bind (Program.ofExcept (view.merged store row)) _) _ _
  rw [hmerged]
  refine ⟨⟨hparent, hown, hbar.trans hcursor, hruntime⟩, fun answer _ => ?_⟩
  cases answer with
  | ok | error => exact rfl

end

/-! ## The bar -/

/-- Stages that write no cursor: each saves the book's rows as it read them there. -/
structure BarStages.KeepCursor (stages : BarStages) (id : Uuid) (productId : String) : Prop where
  matchRestingOrders : ∀ view state snapshot candle, OwnView productId view →
    ShowsBar id productId state snapshot →
    KeepsBar id productId state (stages.matchRestingOrders view snapshot candle)
  manageWorkingEntry : ∀ view state snapshot candles candle, OwnView productId view →
    ShowsBar id productId state snapshot →
    KeepsBar id productId state (stages.manageWorkingEntry view snapshot candles candle)
  exitTrailAndProtect : ∀ view state snapshot candles candle, OwnView productId view →
    ShowsBar id productId state snapshot →
    KeepsBar id productId state (stages.exitTrailAndProtect view snapshot candles candle)
  applyCircuitBreakers : ∀ view state snapshot candle, OwnView productId view →
    ShowsBar id productId state snapshot →
    KeepsBar id productId state (stages.applyCircuitBreakers view snapshot candle)
  maybeEnter : ∀ view state snapshot candles candle, OwnView productId view →
    ShowsBar id productId state snapshot →
    KeepsBar id productId state (stages.maybeEnter view snapshot candles candle)
  persistPerformance : ∀ view state snapshot mark, OwnView productId view →
    ShowsBar id productId state snapshot →
    KeepsBar id productId state (stages.persistPerformance view snapshot mark)
  settleFlatBook : ∀ view state snapshot, OwnView productId view →
    ShowsBar id productId state snapshot →
    KeepsBar id productId state (stages.settleFlatBook view snapshot)
  ensureExitProtection : ∀ view state snapshot candle, OwnView productId view →
    ShowsBar id productId state snapshot →
    KeepsBar id productId state (stages.ensureExitProtection view snapshot candle)

variable {id : Uuid} {productId : String} {state : BarState} {view : StoreView} {input : BarInput}
  {snapshot : DeploymentSnapshot} {candles : List Candle} {candle : Candle}

section

variable (hview : OwnView productId view) (h : ShowsBar id productId state snapshot)
include hview h

/-- Runtime fields of a book other than its cursor. -/
theorem withRuntime_keeps
    (now : Time) {change : RuntimeChange} (hchange : change.lastEvaluatedBar = none) :
    KeepsBar id productId state
      (view.saveAndRead (withRuntime snapshot.deployment now change)) := by
  refine saveAndRead_keeps hview h.id h.productId ?_
  show change.lastEvaluatedBar.or snapshot.deployment.lastEvaluatedBar = state.cursor
  rw [hchange, Option.none_or]
  exact h.cursor

theorem coolDown_keeps :
    KeepsBar id productId state (coolDown input view snapshot) := by
  unfold coolDown
  split
  · exact withRuntime_keeps hview h input.now rfl
  · exact KeepsBar.pure h

end

section

variable (hstages : input.stages.KeepCursor id productId) (hview : OwnView productId view)
  (h : ShowsBar id productId state snapshot)
include hstages hview h

theorem manageOpenPosition_keeps :
    KeepsBar id productId state (manageOpenPosition input view snapshot candles candle) := by
  unfold manageOpenPosition
  split
  · exact KeepsBar.pure h
  next position _ =>
    split
    · exact KeepsBar.pure h
    · have hheld : KeepsBar id productId state
          (countHeldBar input view snapshot position candle) := by
        unfold countHeldBar
        split
        · exact withRuntime_keeps hview h input.now rfl
        · exact KeepsBar.pure h
      refine hheld.bind ?_
      intro held hshows
      split
      · exact KeepsBar.pure hshows
      · exact hstages.exitTrailAndProtect view state held candles candle hview hshows

theorem manageWithoutEntry_keeps :
    KeepsBar id productId state (manageWithoutEntry input view snapshot candles candle) := by
  unfold manageWithoutEntry failClosedOnSplitState
  split
  · exact manageOpenPosition_keeps hstages hview h
  · have hpaused : KeepsBar id productId state (view.saveAndRead
        (pausedRow snapshot.deployment (splitStateDetail snapshot) input.now)) :=
      withRuntime_keeps hview h input.now rfl
    have hchecked : Follows (cursorProtocol id productId) state
        (view.saveAndRead (pausedRow snapshot.deployment (splitStateDetail snapshot) input.now) >>=
          fun paused => Pure.pure (some paused))
        (fun after checked => after = state ∧
          ∃ paused, checked = some paused ∧ ShowsBar id productId after paused)
        (fun after => after = state) :=
      bind hpaused (fun _ paused hpost => ⟨hpost.1, paused, rfl, hpost.2⟩)
    refine bind hchecked ?_
    intro after checked hpost
    obtain ⟨rfl, paused, rfl, hshows⟩ := hpost
    exact KeepsBar.pure hshows

theorem managePosition_keeps :
    KeepsBar id productId state (managePosition input view snapshot candles candle) := by
  unfold managePosition
  split
  · exact manageWithoutEntry_keeps hstages hview h
  · refine (hstages.manageWorkingEntry view state snapshot candles candle hview h).bind ?_
    intro managed hshows
    split
    · exact KeepsBar.pure hshows
    · split
      · exact KeepsBar.pure hshows
      · exact manageWithoutEntry_keeps hstages hview hshows

theorem checkBreakers_keeps :
    KeepsBar id productId state (checkBreakers input view snapshot candle) := by
  unfold checkBreakers
  split
  · exact hstages.applyCircuitBreakers view state snapshot candle hview h
  · exact KeepsBar.pure h

theorem enterIfAllowed_keeps (allowNewEntries : Bool) :
    KeepsBar id productId state
      (enterIfAllowed input view snapshot candles candle allowNewEntries) := by
  unfold enterIfAllowed
  split
  · exact hstages.maybeEnter view state snapshot candles candle hview h
  · exact KeepsBar.pure h

theorem maintainEvaluatedBar_keeps :
    KeepsBar id productId state (maintainEvaluatedBar input view snapshot candle) := by
  have hprotected : KeepsBar id productId state (protectHeld input view snapshot candle) := by
    unfold protectHeld
    split
    · exact hstages.ensureExitProtection view state snapshot candle hview h
    · exact KeepsBar.pure h
  refine hprotected.bind ?_
  intro held hshows
  refine (hstages.persistPerformance view state held candle.close hview hshows).bind ?_
  intro marked hmarked
  exact hstages.settleFlatBook view state marked hview hmarked

end

/-- What a bar leaves: its state as it was, or with the bar logged. -/
def Evaluates (id : Uuid) (productId : String) (state : BarState) (bar : EvaluatedBar)
    (program : Bars DeploymentSnapshot) : Prop :=
  Follows (cursorProtocol id productId) state program
    (fun after snapshot => after = state.complete bar ∧ ShowsBar id productId after snapshot)
    (fun after => after = state ∨ after = state.complete bar)

theorem persistRuntime_evaluates (hview : OwnView productId view)
    (h : ShowsBar id productId state snapshot) (bar : EvaluatedBar) :
    Evaluates id productId state bar (persistRuntime input view snapshot bar) := by
  have hread : KeepsBar id productId state (view.read snapshot.deployment.id) := by
    rw [h.id]
    exact read_keeps hview
  refine bind (hread.mono (fun _ _ hpost => hpost) (fun _ hpost => .inl hpost)) ?_
  intro after latest hpost
  obtain ⟨rfl, -⟩ := hpost
  have hsave := @saveEvaluated_follows id productId after view hview bar
    (withRuntime snapshot.deployment input.now
      { lastEvaluatedBar := some bar.bar
        status := some (persistedStatus snapshot.deployment.status latest.deployment.status) })
    h.id h.productId rfl
  refine bind (hsave.mono (fun _ _ hpost => hpost) (fun _ hpost => .inl hpost)) ?_
  intro logged saved hlogged
  obtain rfl := hlogged
  show Follows _ _ (view.read snapshot.deployment.id) _ _
  rw [h.id]
  exact (read_keeps hview).mono (fun _ _ hpost => ⟨hpost.1, hpost.2⟩) (fun _ hpost => .inr hpost)

variable (hstages : input.stages.KeepCursor id productId) (hview : OwnView productId view)
  (h : ShowsBar id productId state snapshot)
include hstages hview h

theorem evaluateBar_evaluates (allowNewEntries : Bool) :
    Evaluates id productId state ⟨productId, candle.startsAt, allowNewEntries⟩
      (evaluateBar input view productId snapshot candles candle allowNewEntries) := by
  have hquiet : ∀ {program : Bars DeploymentSnapshot} {rest : DeploymentSnapshot → Bars
      DeploymentSnapshot}, KeepsBar id productId state program →
      (∀ found, ShowsBar id productId state found →
        Evaluates id productId state ⟨productId, candle.startsAt, allowNewEntries⟩ (rest found)) →
      Evaluates id productId state ⟨productId, candle.startsAt, allowNewEntries⟩
        (program >>= rest) := by
    intro program rest hprogram hrest
    refine bind (hprogram.mono (fun _ _ hpost => hpost) (fun _ hpost => .inl hpost)) ?_
    intro after found hpost
    obtain ⟨rfl, hshows⟩ := hpost
    exact hrest found hshows
  refine hquiet (coolDown_keeps hview h) ?_
  intro cooled hcooled
  refine hquiet (hstages.matchRestingOrders view state cooled candle hview hcooled) ?_
  intro matched hmatched
  refine hquiet (managePosition_keeps hstages hview hmatched) ?_
  intro managed hmanaged
  refine hquiet (checkBreakers_keeps hstages hview hmanaged) ?_
  intro checked hchecked
  refine hquiet (enterIfAllowed_keeps hstages hview hchecked allowNewEntries) ?_
  intro decided hdecided
  refine hquiet (hstages.persistPerformance view state decided candle.close hview hdecided) ?_
  intro marked hmarked
  refine bind (persistRuntime_evaluates hview hmarked _) ?_
  intro after persisted hpost
  obtain ⟨rfl, hshows⟩ := hpost
  exact (hstages.settleFlatBook view _ persisted hview hshows).mono (fun _ _ hpost => hpost)
    (fun _ hpost => .inr hpost)

/-- A bar the cursor is already on is not evaluated again. -/
theorem processClosedBar_keeps
    (hlast : ∀ latest ∈ candles.getLast?, state.cursor = some latest.startsAt)
    (allowNewEntries : Bool) :
    KeepsBar id productId state
      (processClosedBar input view productId snapshot candles allowNewEntries) := by
  unfold processClosedBar
  split
  · exact KeepsBar.pure h
  next latest hlatest =>
    split
    · exact KeepsBar.pure h
    · rw [if_pos (h.cursor.trans (hlast latest hlatest))]
      exact maintainEvaluatedBar_keeps hstages hview h

variable {latest : Candle}

theorem processClosedBar_evaluates (hlatest : candles.getLast? = some latest)
    (hstatus : snapshot.deployment.status ≠ .stopped)
    (hcursor : state.cursor ≠ some latest.startsAt) (allowNewEntries : Bool) :
    Evaluates id productId state ⟨productId, latest.startsAt, allowNewEntries⟩
      (processClosedBar input view productId snapshot candles allowNewEntries) := by
  unfold processClosedBar
  rw [hlatest]
  dsimp only
  rw [if_neg (fun hstopped => hstatus hstopped.1), if_neg (by rw [h.cursor]; exact hcursor)]
  exact evaluateBar_evaluates hstages hview h allowNewEntries

theorem processClosedBar_follows (hlatest : candles.getLast? = some latest)
    (hcursor : state.cursor ≠ some latest.startsAt) (allowNewEntries : Bool) :
    Follows (cursorProtocol id productId) state
      (processClosedBar input view productId snapshot candles allowNewEntries)
      (fun after _ => after = state ∨
        after = state.complete ⟨productId, latest.startsAt, allowNewEntries⟩)
      (fun after => after = state ∨
        after = state.complete ⟨productId, latest.startsAt, allowNewEntries⟩) := by
  by_cases hstopped : snapshot.deployment.status = .stopped
  · unfold processClosedBar
    rw [hlatest]
    dsimp only
    split
    · exact .inl rfl
    · rw [if_neg (by rw [h.cursor]; exact hcursor)]
      exact (evaluateBar_evaluates hstages hview h allowNewEntries).mono
        (fun _ _ hpost => .inr hpost.1) (fun _ hpost => hpost)
  · exact (processClosedBar_evaluates hstages hview h hlatest hstopped hcursor
      allowNewEntries).mono (fun _ _ hpost => .inr hpost.1) (fun _ hpost => hpost)

end Thytrader.Execution
