import Thytrader.Portfolios.RuntimeWrites

/-!
# What the daily loss stop measures

Cycles, starts and resets of one portfolio, each run to its end before the next, between any
edits of the portfolio and anything that happens to the deployments. A run keeps a history of
marks: a start of a run, a reset, and each cycle that recorded the equity, with the capital and
the total net PnL it saw.

The stored day open is the capital plus the PnL of the baseline the history tells
(`Watched.Inv`), so the stop compares PnL with PnL as long as the capital stays.
-/

namespace Thytrader.Portfolios

open Lib Option PortfolioRuntimeState Scene
open Risk (utcDayStart)
open Trading

variable {s scene : Scene} {w : Watched}

/-! ## Histories -/

/-- What a history remembers; a cycle also has the limit it measured by and the breaker latched
before it. -/
inductive Mark where
  | start (day : Time) (capital : Decimal)
  | reset (day : Time) (capital pnl : Decimal)
  | cycle (day : Time) (capital pnl : Decimal) (limit : Option Decimal)
      (before : Option BreakerReason)
  deriving DecidableEq

/-- The current baseline: its UTC day, the capital then and the total net PnL then. -/
structure Baseline where
  day : Time
  capital : Decimal
  pnl : Decimal

/-- The baseline after a history, newest mark first: the latest of the run start, with PnL zero, the
last reset, and the first cycle of a UTC day. -/
def baseline : List Mark → Option Baseline
  | [] => none
  | .start day capital :: _ => some ⟨day, capital, 0⟩
  | .reset day capital pnl :: _ => some ⟨day, capital, pnl⟩
  | .cycle day capital pnl _ _ :: earlier =>
    match baseline earlier with
    | none => some ⟨day, capital, pnl⟩
    | some opened => if opened.day < day then some ⟨day, capital, pnl⟩ else some opened

/-- Since the last reset a cycle without a latched drawdown stop saw the PnL at least the limit
below its baseline. -/
def Lost (limit : Decimal) : List Mark → Prop
  | [] => False
  | .start _ _ :: earlier => Lost limit earlier
  | .reset _ _ _ :: _ => False
  | .cycle day capital pnl measured before :: earlier =>
    Lost limit earlier ∨
      (before ≠ some .portfolioDrawdownStop ∧
        ∃ opened, baseline (.cycle day capital pnl measured before :: earlier) = some opened ∧
          limit ≤ opened.pnl - pnl)

/-- Since the last reset a cycle saw the PnL at least the limit below its baseline, whatever was
latched then. -/
def EverLost (limit : Decimal) : List Mark → Prop
  | [] => False
  | .start _ _ :: earlier => EverLost limit earlier
  | .reset _ _ _ :: _ => False
  | .cycle day capital pnl measured before :: earlier =>
    EverLost limit earlier ∨
      ∃ opened, baseline (.cycle day capital pnl measured before :: earlier) = some opened ∧
        limit ≤ opened.pnl - pnl

def Steady : List Mark → Prop
  | [] => True
  | .cycle day capital pnl measured before :: earlier =>
    (∀ opened, baseline (.cycle day capital pnl measured before :: earlier) = some opened →
      opened.capital = capital) ∧ Steady earlier
  | _ :: earlier => Steady earlier

def Limited (limit : Decimal) : List Mark → Prop
  | [] => True
  | .cycle _ _ _ measured _ :: earlier => measured = some limit ∧ Limited limit earlier
  | _ :: earlier => Limited limit earlier

/-! ## Runs -/

/-- The stores and the history of one portfolio. -/
structure Watched where
  scene : Scene
  history : List Mark

/-- A cycle, a start, a reset, an edit of the portfolio store, or whatever else the deployments go
through. -/
inductive LossEvent where
  | cycle (now : Time) (inputs : RuntimeInputs)
  | start (request : StartRequest) (context : MutationContext) (inputs : RuntimeInputs)
  | reset (context : MutationContext) (inputs : RuntimeInputs)
  | edit (event : StoreEvent)
  | books (execution : MemoryStore)

def equityCheck (aggregate : PortfolioAggregate) (tagged : List Deployment)
    (runtime : PortfolioRuntimeState) (now : Time) : RuntimeProgram Bool := do
  syncAllocations aggregate now (occupiedMembers tagged)
  equityUnresolved (runMembers tagged runtime)

namespace Scene

variable (portfolioId : Uuid)

/-- The books a cycle records the equity of: none without a running or paused book, or when one is
unresolved. -/
def resolvedRun (scene : Scene) (aggregate : PortfolioAggregate) (tagged : List Deployment)
    (now : Time) (inputs : RuntimeInputs) : Option (List Deployment) :=
  if occupiedMembers tagged = [] then none
  else
    match (equityCheck aggregate tagged scene.runtime now).run (Scene.perform portfolioId inputs) scene with
    | (.ok false, _) => some (runMembers tagged scene.runtime)
    | _ => none

/-- What a cycle records: the portfolio as it reads it, and the books. -/
def recording (scene : Scene) (now : Time) (inputs : RuntimeInputs) :
    Option (PortfolioAggregate × List Deployment) :=
  let deployments := Floor.listDeployments scene.execution
  if deployments.all (fun item => item.portfolioId ≠ some portfolioId) then none
  else
    match scene.aggregate portfolioId inputs.library with
    | .error _ => none
    | .ok aggregate =>
      (scene.resolvedRun portfolioId aggregate
        (members deployments aggregate.portfolio.portfolioId) now inputs).map (aggregate, ·)

def runBooks (scene : Scene) : List Deployment :=
  runMembers (members (Floor.listDeployments scene.execution) portfolioId) scene.runtime

def capital (scene : Scene) : Decimal :=
  ((scene.portfolios.portfolio portfolioId).toOption.map (·.capitalQuote)).getD 0

def edited (scene : Scene) (event : StoreEvent) : Scene :=
  match event.call.lockedSection event.reads scene.portfolios with
  | .ok write => { scene with portfolios := scene.portfolios.write write }
  | .error _ => scene

end Scene

namespace Watched

variable (portfolioId : Uuid)

/-- The mark of an operator action: only when it wrote the runtime row. -/
def marked (before after : Scene) (mark : Mark) (history : List Mark) : List Mark :=
  if after.runtime.revision = before.runtime.revision then history else mark :: history

def after (w : Watched) : LossEvent → Watched
  | .cycle now inputs =>
    { scene := ((supervisePortfolio portfolioId now).run (Scene.perform portfolioId inputs) w.scene).2
      history :=
        match w.scene.recording portfolioId now inputs with
        | none => w.history
        | some (aggregate, run) =>
          .cycle (utcDayStart now) aggregate.portfolio.capitalQuote (totalNetPnl run)
            (aggregate.portfolio.limits.dailyLossQuote.map (·.val)) w.scene.runtime.breakerReason ::
              w.history }
  | .start request context inputs =>
    let scene :=
      ((start portfolioId request context).run (Scene.perform portfolioId inputs) w.scene).2
    let day := utcDayStart (millisecondContext context).occurredAt
    { scene, history := marked w.scene scene (.start day (w.scene.capital portfolioId)) w.history }
  | .reset context inputs =>
    let scene :=
      ((resetBreaker portfolioId context).run (Scene.perform portfolioId inputs) w.scene).2
    let day := utcDayStart (millisecondContext context).occurredAt
    { scene
      history := marked w.scene scene
        (.reset day (w.scene.capital portfolioId) (totalNetPnl (w.scene.runBooks portfolioId)))
        w.history }
  | .edit event => { w with scene := w.scene.edited event }
  | .books execution => { w with scene := { w.scene with execution := execution } }

def Step (w : Watched) (event : LossEvent) (w' : Watched) : Prop :=
  (∀ expected reads, event ≠ .edit ⟨.delete portfolioId expected, reads⟩) ∧
    w' = w.after portfolioId event

/-- A portfolio never deployed, over any stores. -/
def Initial (w : Watched) : Prop :=
  w.scene.runtime = { portfolioId := portfolioId } ∧ w.history = []

end Watched

/-! ## One cycle -/

section

variable {portfolioId : Uuid} {inputs : RuntimeInputs}

theorem run_call (op : RuntimeOp) (s : Scene) :
    (call op).run (Scene.perform portfolioId inputs) s =
      (.ok (s.perform portfolioId inputs op).1, (s.perform portfolioId inputs op).2) := rfl

theorem run_listDeployments (s : Scene) :
    (call .listDeployments).run (Scene.perform portfolioId inputs) s =
      (.ok (Floor.listDeployments s.execution), s) := rfl

theorem run_runtimeView (s : Scene) :
    (call .runtimeView).run (Scene.perform portfolioId inputs) s =
      (.ok ((s.aggregate portfolioId inputs.library).toOption.map (⟨·, s.runtime⟩)), s) := rfl

theorem run_orPortfolioError {α : Type} (value : α) (s : Scene) :
    (orPortfolioError (.ok value)).run (Scene.perform portfolioId inputs) s = (.ok value, s) := rfl

/-- The row a recording cycle leaves. -/
def PortfolioRuntimeState.afterRecording (runtime : PortfolioRuntimeState)
    (aggregate : PortfolioAggregate) (run : List Deployment) (now : Time) : PortfolioRuntimeState :=
  let recorded := runtime.rollBaselines (runEquity aggregate run) now
  let trip := newTrip aggregate runtime recorded
  if trip.isNone && !baselinesMoved runtime recorded now then runtime
  else { recorded.latch trip now with revision := runtime.revision + 1 }

variable {aggregate : PortfolioAggregate}

theorem exists_portfolio (h : s.aggregate portfolioId inputs.library = .ok aggregate) :
    ∃ portfolio, s.portfolios.portfolio portfolioId = .ok portfolio := by
  unfold Scene.aggregate at h
  cases hfound : s.portfolios.portfolio portfolioId with
  | error => simp [hfound, Except.map] at h
  | ok portfolio => exact ⟨portfolio, rfl⟩

/-- A write under the stored revision replaces the row. -/
theorem run_writeRuntime {portfolio : Portfolio}
    (hfound : s.portfolios.portfolio portfolioId = .ok portfolio) (state : PortfolioRuntimeState) :
    (call (.writeRuntime state s.runtime.revision)).run (Scene.perform portfolioId inputs) s =
      (.ok (.ok (some { state with revision := s.runtime.revision + 1 })),
        { s with runtime := { state with revision := s.runtime.revision + 1 } }) := by
  rw [run_call]
  unfold Scene.perform writeRuntime
  dsimp only
  rw [hfound, if_pos rfl]

theorem run_recordEquity (run : List Deployment) (now : Time)
    (hportfolio : s.aggregate portfolioId inputs.library = .ok aggregate) :
    ∃ state, ((recordEquity aggregate s.runtime run now).run (Scene.perform portfolioId inputs) s) =
      (.ok state, { s with runtime := s.runtime.afterRecording aggregate run now }) := by
  obtain ⟨portfolio, hfound⟩ := exists_portfolio hportfolio
  unfold recordEquity afterRecording
  dsimp only
  split
  · exact ⟨_, rfl⟩
  · let recorded := s.runtime.rollBaselines (runEquity aggregate run) now
    refine ⟨{ recorded.latch (newTrip aggregate s.runtime recorded) now with
      revision := s.runtime.revision + 1 }, ?_⟩
    rw [Program.run_bind, run_writeRuntime hfound]
    rfl

theorem aggregate_congr {t : Scene} (h : t.portfolios = s.portfolios) :
    t.aggregate portfolioId inputs.library = s.aggregate portfolioId inputs.library := by
  unfold aggregate
  rw [h]

/-- The supervision of one portfolio: the row moves only when the check came back resolved. -/
theorem run_superviseOne (s : Scene)
    (hread : s.aggregate portfolioId inputs.library = .ok aggregate) (deployments : List Deployment)
    (now : Time) : let tagged := members deployments aggregate.portfolio.portfolioId
    let t := ((superviseOne ⟨aggregate, s.runtime⟩ deployments now).run
      (Scene.perform portfolioId inputs) s).2
    t.portfolios = s.portfolios ∧
      t.runtime = (s.resolvedRun portfolioId aggregate tagged now inputs).elim s.runtime
        (fun run => s.runtime.afterRecording aggregate run now) := by
  let tagged := members deployments aggregate.portfolio.portfolioId
  unfold superviseOne resolvedRun equityCheck
  dsimp only
  split
  · exact ⟨rfl, rfl⟩
  · simp only [Program.run_bind]
    have hsync := Plain.run (only_syncAllocations aggregate now (occupiedMembers tagged))
      portfolioId inputs s
    generalize (syncAllocations aggregate now (occupiedMembers tagged)).run
      (Scene.perform portfolioId inputs) s = synced at hsync ⊢
    obtain ⟨_ | _, s₁⟩ := synced
    · exact ⟨hsync.portfolios, hsync.runtime⟩
    · dsimp only at hsync ⊢
      have hcheck := Plain.run (only_equityUnresolved (runMembers tagged s.runtime))
        portfolioId inputs s₁
      generalize (equityUnresolved (runMembers tagged s.runtime)).run
        (Scene.perform portfolioId inputs) s₁ = checked at hcheck ⊢
      have hsame : SameRow s checked.2 := hsync.trans hcheck
      obtain ⟨_ | unresolved, s₂⟩ := checked
      · exact ⟨hsame.portfolios, hsame.runtime⟩
      · dsimp only
        cases unresolved with
        | true =>
          have henforce := Plain.run (only_enforceLatch s.runtime (runningMembers tagged) now)
            portfolioId inputs s₂
          exact ⟨(hsame.trans henforce).portfolios, (hsame.trans henforce).runtime⟩
        | false =>
          have hrow : s₂.runtime = s.runtime := hsame.runtime
          obtain ⟨state, hrecord⟩ := run_recordEquity (runMembers tagged s.runtime) now
            ((aggregate_congr hsame.portfolios).trans hread)
          rw [hrow] at hrecord
          have henforce := Plain.run (only_enforceLatch state (runningMembers tagged) now)
            portfolioId inputs
            { s₂ with runtime := s.runtime.afterRecording aggregate (runMembers tagged s.runtime) now }
          rw [if_neg (by simp), Program.run_bind, hrecord]
          exact ⟨henforce.portfolios.trans hsame.portfolios, henforce.runtime⟩

/-- A cycle leaves the row its recording says, and the portfolio store alone. -/
theorem run_supervisePortfolio (s : Scene) (now : Time) :
    let t := ((supervisePortfolio portfolioId now).run (Scene.perform portfolioId inputs) s).2
    t.portfolios = s.portfolios ∧
      t.runtime = (s.recording portfolioId now inputs).elim s.runtime
        (fun recorded => s.runtime.afterRecording recorded.1 recorded.2 now) := by
  unfold supervisePortfolio recording
  rw [Program.run_bind, run_listDeployments]
  by_cases hall : (Floor.listDeployments s.execution).all
      (fun item => item.portfolioId ≠ some portfolioId) = true
  · simp only [hall, if_true]
    exact ⟨rfl, rfl⟩
  · simp only [hall]
    rw [if_neg (by simp), if_neg (by simp), Program.run_bind, run_runtimeView]
    cases hread : s.aggregate portfolioId inputs.library with
    | error => exact ⟨rfl, rfl⟩
    | ok aggregate =>
      have hone := run_superviseOne s hread (Floor.listDeployments s.execution) now
      dsimp only [Except.toOption, map_some] at hone ⊢
      rw [Program.run_bind, Program.run_attempt, elim_map]
      generalize (superviseOne ⟨aggregate, s.runtime⟩ (Floor.listDeployments s.execution) now).run
        (Scene.perform portfolioId inputs) s = supervised at hone ⊢
      obtain ⟨failure | runtime, s₁⟩ := supervised
      · dsimp only
        split
        · exact hone
        · exact hone
      · exact hone

end
/-! ## One start, one reset -/

section

variable {portfolioId : Uuid} {inputs : RuntimeInputs}

theorem aggregate_eq_ok {aggregate : PortfolioAggregate}
    (h : s.aggregate portfolioId inputs.library = .ok aggregate) :
    s.capital portfolioId = aggregate.portfolio.capitalQuote := by
  unfold Scene.aggregate at h
  unfold capital
  cases hfound : s.portfolios.portfolio portfolioId with
  | error => simp [hfound, Except.map] at h
  | ok =>
    rw [hfound] at h
    cases h
    rfl

/-- What a start that runs alone has done so far. -/
structure Started (portfolioId : Uuid) (inputs : RuntimeInputs) (now : Time) (before : Scene)
    (seen : Seen) (s : Scene) : Prop where
  portfolios : s.portfolios = before.portfolios
  aggregate : ∀ aggregate, seen.aggregate = some aggregate →
    before.aggregate portfolioId inputs.library = .ok aggregate
  runtime : ∀ runtime, seen.runtime = some runtime → seen.wrote = false → runtime = before.runtime
  unwritten : seen.wrote = false → s.runtime = before.runtime
  written : seen.wrote = true → before.runtime.breakerReason = none ∧
    s.runtime = { before.runtime.beginRun (before.capital portfolioId) now with
      revision := before.runtime.revision + 1 }

theorem Started.perform {before : Scene} {request : StartRequest} {context : MutationContext}
    {seen : Seen} {op : RuntimeOp}
    (h : Started portfolioId inputs (millisecondContext context).occurredAt before seen s)
    (hrequire : ((RuntimeCall.start request context).discipline portfolioId).require seen op) :
    Started portfolioId inputs (millisecondContext context).occurredAt before
      (seen.learn op (s.perform portfolioId inputs op).1) (s.perform portfolioId inputs op).2 := by
  have hread : s.aggregate portfolioId inputs.library = before.aggregate portfolioId inputs.library :=
    aggregate_congr h.portfolios
  cases op with
  | listDeployments | startSleeve | saveDeployment => exact { h with }
  | planSleeves | getDeployment => exact h
  | runtimeView =>
    unfold Scene.perform Seen.learn
    dsimp only
    cases hget : s.aggregate portfolioId inputs.library with
    | error => exact h
    | ok aggregate =>
      refine { h with aggregate := fun found hfound => ?_, runtime := fun found hfound hwrote => ?_ }
      · rw [← Option.some.inj hfound, ← hread, hget]
      · rw [← Option.some.inj hfound]
        exact h.unwritten hwrote
  | get =>
    unfold Scene.perform Seen.learn
    dsimp only
    cases hget : s.aggregate portfolioId inputs.library with
    | error => exact h
    | ok aggregate =>
      refine { h with aggregate := fun found hfound => ?_ }
      rw [← Option.some.inj hfound, ← hread, hget]
  | runtimeState =>
    unfold Scene.perform Seen.learn
    dsimp only
    cases hget : s.portfolios.portfolio portfolioId with
    | error => exact h
    | ok =>
      refine { h with runtime := fun found hfound hwrote => ?_ }
      rw [← Option.some.inj hfound]
      exact h.unwritten hwrote
  | writeRuntime state expectedRevision =>
    obtain ⟨hwrote, runtime, hseen, hrevision, hclear, aggregate, haggregate, hstate⟩ :=
      hrequire state expectedRevision rfl
    have hruntime := h.runtime runtime hseen hwrote
    unfold Scene.perform
    dsimp only
    cases hget : s.portfolios.portfolio portfolioId with
    | error => exact h
    | ok =>
      dsimp only
      unfold writeRuntime
      split
      · refine { h with runtime := ?_, unwritten := ?_, written := fun _ => ?_ }
        · exact fun _ _ hfalse => absurd hfalse (by simp [Seen.learn])
        · exact fun hfalse => absurd hfalse (by simp [Seen.learn])
        · rw [hruntime] at hclear hstate hrevision
          rw [aggregate_eq_ok (h.aggregate aggregate haggregate)]
          exact ⟨hclear, by rw [hstate, hrevision]⟩
      · exact h

/-- A start alone leaves the row, or begins a run over an unlatched one at the capital. -/
theorem run_start (s : Scene) (request : StartRequest) (context : MutationContext) :
    let now := (millisecondContext context).occurredAt
    ∃ seen, Started portfolioId inputs now s seen
      ((start portfolioId request context).run (Scene.perform portfolioId inputs) s).2 := by
  refine Guarded.run ?_ (start_guarded request context) (s := s) ?_
  · intro seen t op hstarted hrequire
    exact ⟨trivial, Started.perform hstarted hrequire⟩
  · exact {
      portfolios := rfl
      aggregate := fun _ hseen => absurd hseen (by simp)
      runtime := fun _ hseen => absurd hseen (by simp)
      unwritten := fun _ => rfl
      written := fun hwrote => absurd hwrote (by simp) }

theorem run_readSnapshots (books : List Deployment) (s : Scene) :
    ∃ outcome, (books.forM readSnapshot).run (Scene.perform portfolioId inputs) s = (outcome, s) := by
  induction books with
  | nil => exact ⟨_, rfl⟩
  | cons item rest ih =>
    have hread : ∃ read, (readSnapshot item).run (Scene.perform portfolioId inputs) s =
        (read, s) := by
      unfold readSnapshot
      rw [Program.run_bind, run_call]
      dsimp only [Scene.perform]
      cases s.execution.getDeployment item.id with
      | ok | error => exact ⟨_, rfl⟩
    obtain ⟨read, hread⟩ := hread
    show ∃ outcome, (readSnapshot item >>= fun _ => rest.forM readSnapshot).run
      (Scene.perform portfolioId inputs) s = (outcome, s)
    rw [Program.run_bind, hread]
    cases read with
    | ok => exact ih
    | error => exact ⟨_, rfl⟩

theorem run_resetAttempt (s : Scene) (now : Time) :
    let cleared := s.runtime.cleared
      (s.capital portfolioId + totalNetPnl (s.runBooks portfolioId)) now
    let written := { cleared with revision := s.runtime.revision + 1 }
    let ended := (resetAttempt portfolioId now).run (Scene.perform portfolioId inputs) s
    (∃ failure, ended = (.error failure, s)) ∨
      ended = (.ok (some written), { s with runtime := written }) := by
  unfold resetAttempt
  rw [Program.run_bind, run_call]
  dsimp only [Scene.perform]
  cases hread : s.aggregate portfolioId inputs.library with
  | error => exact .inl ⟨_, rfl⟩
  | ok =>
    obtain ⟨portfolio, hfound⟩ := exists_portfolio hread
    have hstate : (call .runtimeState).run (Scene.perform portfolioId inputs) s =
        (.ok (.ok s.runtime), s) := by
      rw [run_call]
      dsimp only [Scene.perform]
      rw [hfound]
      rfl
    obtain ⟨outcome, hsnapshots⟩ := @run_readSnapshots portfolioId inputs
      (snapshotMembers (members (Floor.listDeployments s.execution) portfolioId) s.runtime) s
    rw [Program.run_bind, run_orPortfolioError]
    dsimp only
    rw [Program.run_bind, hstate]
    dsimp only
    rw [Program.run_bind, run_orPortfolioError]
    dsimp only
    rw [Program.run_bind, run_listDeployments]
    dsimp only
    rw [Program.run_bind, hsnapshots]
    cases outcome with
    | error => exact .inl ⟨_, rfl⟩
    | ok =>
      dsimp only
      rw [Program.run_bind]
      by_cases hlatched : s.runtime.breakerLatched = true
      · right
        rw [require, if_pos hlatched, run_orPortfolioError]
        dsimp only
        rw [Program.run_bind, run_writeRuntime hfound, aggregate_eq_ok hread]
        rfl
      · left
        rw [require, if_neg hlatched]
        exact ⟨_, rfl⟩

theorem run_resetBreaker (s : Scene) (context : MutationContext) :
    let now := (millisecondContext context).occurredAt
    let t := ((resetBreaker portfolioId context).run (Scene.perform portfolioId inputs) s).2
    t.portfolios = s.portfolios ∧ (t.runtime = s.runtime ∨
      t.runtime = { s.runtime.cleared
        (s.capital portfolioId + totalNetPnl (s.runBooks portfolioId)) now with
          revision := s.runtime.revision + 1 }) := by
  unfold resetBreaker
  rw [Program.run_bind]
  rcases @run_resetAttempt portfolioId inputs s
    (millisecondContext context).occurredAt with ⟨failure, hended⟩ | hended
  · rw [hended]
    exact ⟨rfl, .inl rfl⟩
  · rw [hended]
    exact ⟨rfl, .inr rfl⟩

end

/-! ## The invariant of a run -/

/-- The stored day open is the baseline's, in capital plus PnL, and the daily loss stop is latched
exactly when the history says so. -/
structure Watched.Inv (w : Watched) : Prop where
  opened : w.scene.runtime.dayOpenEquity =
    (baseline w.history).map (fun opened => opened.capital + opened.pnl)
  day : w.scene.runtime.dayOpenAt = (baseline w.history).map (·.day)
  stop : ∀ limit, Steady w.history → Limited limit w.history →
    (w.scene.runtime.breakerReason = some .portfolioDailyLossStop ↔ Lost limit w.history)

variable {portfolioId : Uuid} {runtime : PortfolioRuntimeState}

theorem dayOpen_eq {history : List Mark}
    (hopened : runtime.dayOpenEquity = (baseline history).map (fun opened => opened.capital +
      opened.pnl)) (hday : runtime.dayOpenAt = (baseline history).map (·.day)) (now : Time)
    (capital pnl : Decimal) (limit : Option Decimal) (before : Option BreakerReason) :
    ∃ opened, baseline (.cycle (utcDayStart now) capital pnl limit before :: history) =
        some opened ∧
      runtime.dayOpen (capital + pnl) now = (opened.capital + opened.pnl, opened.day) := by
  unfold dayOpen baseline
  rw [hopened, hday]
  cases hbase : baseline history with
  | none => exact ⟨_, rfl, rfl⟩
  | some =>
    dsimp only [map_some]
    split
    · exact ⟨_, rfl, rfl⟩
    · exact ⟨_, rfl, rfl⟩

section

variable (runtime : PortfolioRuntimeState) (aggregate : PortfolioAggregate) (run : List Deployment)
  (now : Time)

theorem afterRecording_dayOpen :
    (runtime.afterRecording aggregate run now).dayOpenEquity =
        some (runtime.dayOpen (runEquity aggregate run) now).1 ∧
      (runtime.afterRecording aggregate run now).dayOpenAt =
        some (runtime.dayOpen (runEquity aggregate run) now).2 := by
  unfold afterRecording
  dsimp only
  split
  next hquiet =>
    have hmoved := (Bool.and_eq_true _ _ ▸ hquiet).2
    simp only [baselinesMoved, Bool.not_or, Bool.and_eq_true, Bool.not_eq_true',
      decide_eq_false_iff_not, not_not, Prod.mk.injEq] at hmoved
    exact ⟨hmoved.1.1, hmoved.1.2.1⟩
  · cases newTrip aggregate runtime (runtime.rollBaselines (runEquity aggregate run) now) with
    | none | some => exact ⟨rfl, rfl⟩

theorem afterRecording_breakerReason :
    (runtime.afterRecording aggregate run now).breakerReason =
      runtime.breakerReason.or ((trippedBreaker aggregate
        (runtime.rollBaselines (runEquity aggregate run) now)).map (·.reason)) := by
  unfold afterRecording newTrip breakerLatched
  cases hreason : runtime.breakerReason with
  | some =>
    simp only [isSome_some, if_true]
    split
    · exact hreason
    · exact hreason
  | none =>
    simp only [isSome_none, Bool.false_eq_true, if_false]
    cases trippedBreaker aggregate (runtime.rollBaselines (runEquity aggregate run) now) with
    | none =>
      split
      · exact hreason
      · exact hreason
    | some => rfl

end

theorem Watched.Inv.cycle (h : w.Inv) (aggregate : PortfolioAggregate) (run : List Deployment)
    (now : Time) :
    ∀ scene : Scene, scene.runtime = w.scene.runtime.afterRecording aggregate run now →
    Watched.Inv ⟨scene,
      .cycle (utcDayStart now) aggregate.portfolio.capitalQuote (totalNetPnl run)
        (aggregate.portfolio.limits.dailyLossQuote.map (·.val)) w.scene.runtime.breakerReason ::
          w.history⟩ := by
  intro scene hscene
  obtain ⟨opened, hbaseline, hdayOpen⟩ := dayOpen_eq h.opened h.day now
    aggregate.portfolio.capitalQuote (totalNetPnl run)
    (aggregate.portfolio.limits.dailyLossQuote.map (·.val)) w.scene.runtime.breakerReason
  have hrecorded := afterRecording_dayOpen w.scene.runtime aggregate run now
  rw [← hscene, runEquity, hdayOpen] at hrecorded
  refine { opened := ?_, day := ?_, stop := fun limit hsteady hlimited => ?_ }
  · rw [hbaseline]
    exact hrecorded.1
  · rw [hbaseline]
    exact hrecorded.2
  · obtain ⟨hcapital, hsteady⟩ := hsteady
    obtain ⟨hmeasured, hlimited⟩ := hlimited
    have hearlier := h.stop limit hsteady hlimited
    rw [hscene, afterRecording_breakerReason]
    unfold Lost
    cases hreason : w.scene.runtime.breakerReason with
    | some reason =>
      -- a latch stays, so the daily loss stop is latched now exactly when it was before
      rw [hreason] at hearlier
      constructor
      · exact fun hdaily => .inl (hearlier.mp hdaily)
      · rintro (hlost | ⟨hother, -⟩)
        · exact hearlier.mpr hlost
        · cases reason with
          | portfolioDailyLossStop => rfl
          | portfolioDrawdownStop => exact absurd rfl hother
    | none =>
      rw [hreason] at hearlier hbaseline
      obtain ⟨text, hlimit, hvalue⟩ := map_eq_some_iff.mp hmeasured
      have hsame : opened.capital = aggregate.portfolio.capitalQuote := by
        exact hcapital opened hbaseline
      have hchange : (w.scene.runtime.rollBaselines (runEquity aggregate run) now).dailyPnl =
          some (totalNetPnl run - opened.pnl) := by
        unfold dailyPnl rollBaselines runEquity
        rw [hdayOpen, hsame]
        simp
      rw [none_or, trippedBreaker_daily hlimit hchange, hvalue, hbaseline]
      constructor
      · intro hle
        exact .inr ⟨by simp, opened, rfl, by linarith⟩
      · rintro (hlost | ⟨-, found, hfound, hle⟩)
        · cases (hearlier.mpr hlost)
        · cases hfound
          linarith

theorem Watched.Inv.initial (h : w.Initial portfolioId) : w.Inv := by
  obtain ⟨hruntime, hhistory⟩ := h
  refine { opened := ?_, day := ?_, stop := fun limit _ _ => ?_ }
  · rw [hruntime, hhistory]
    rfl
  · rw [hruntime, hhistory]
    rfl
  · rw [hruntime, hhistory]
    simp [Lost]

theorem Watched.Inv.sameRow (h : w.Inv) (hscene : scene.runtime = w.scene.runtime) :
    Watched.Inv ⟨scene, w.history⟩ where
  opened := hscene ▸ h.opened
  day := hscene ▸ h.day
  stop := hscene ▸ h.stop

/-- A run begun keeps the invariant: its books have made nothing yet. -/
theorem Watched.Inv.start (h : w.Inv) {capital : Decimal} {now : Time}
    (hrow : scene.runtime = { w.scene.runtime.beginRun capital now with revision :=
      w.scene.runtime.revision + 1 }) :
    Watched.Inv ⟨scene, .start (utcDayStart now) capital :: w.history⟩ where
  opened := by
    rw [hrow]
    simp [beginRun, baseline]
  day := by
    rw [hrow]
    rfl
  stop := fun limit hsteady hlimited => by
    have hearlier := h.stop limit hsteady hlimited
    rw [hrow]
    exact hearlier

/-- A reset clears the stop, at a baseline of its own. -/
theorem Watched.Inv.reset {history : List Mark} {capital pnl : Decimal} {now : Time}
    (hrow : scene.runtime = { runtime.cleared (capital + pnl) now with revision := runtime.revision
      + 1 }) :
    Watched.Inv ⟨scene, .reset (utcDayStart now) capital pnl :: history⟩ where
  opened := by
    rw [hrow]
    rfl
  day := by
    rw [hrow]
    rfl
  stop := fun limit _ _ => by
    rw [hrow]
    simp [cleared, Lost]

theorem runtime_edited (scene : Scene) (event : StoreEvent) :
    (scene.edited event).runtime = scene.runtime := by
  unfold edited
  split
  · rfl
  · rfl

theorem Watched.Inv.step {w' : Watched} {event : LossEvent} (h : w.Inv)
    (hstep : w.Step portfolioId event w') : w'.Inv := by
  obtain ⟨-, rfl⟩ := hstep
  cases event with
  | books => exact h.sameRow rfl
  | edit event => exact h.sameRow (runtime_edited w.scene event)
  | cycle now inputs =>
    have hrun := (@run_supervisePortfolio portfolioId inputs w.scene now).2
    unfold Watched.after
    dsimp only
    cases hrecording : w.scene.recording portfolioId now inputs with
    | none =>
      rw [hrecording] at hrun
      exact h.sameRow hrun
    | some recorded =>
      rw [hrecording] at hrun
      exact h.cycle recorded.1 recorded.2 now _ hrun
  | start request context inputs =>
    obtain ⟨seen, hstarted⟩ :=
      @run_start portfolioId inputs w.scene request context
    unfold Watched.after Watched.marked
    dsimp only
    cases hwrote : seen.wrote with
    | false =>
      have hrow := hstarted.unwritten hwrote
      rw [if_pos (congrArg revision hrow)]
      exact h.sameRow hrow
    | true =>
      have hrow := (hstarted.written hwrote).2
      rw [if_neg (by rw [hrow]; simp)]
      exact h.start hrow
  | reset context inputs =>
    have hreset :=
      (@run_resetBreaker portfolioId inputs w.scene context).2
    unfold Watched.after Watched.marked
    dsimp only
    rcases hreset with hrow | hrow
    · rw [if_pos (congrArg revision hrow)]
      exact h.sameRow hrow
    · rw [if_neg (by rw [hrow]; simp)]
      exact Watched.Inv.reset hrow

theorem Watched.Inv.reachable
    (h : Reachable (Watched.Initial portfolioId) (Watched.Step portfolioId) w) : w.Inv :=
  h.invariant Watched.Inv (fun _ hinitial => .initial hinitial)
    (fun _ _ _ hinv hstep => hinv.step hstep)

end Thytrader.Portfolios
