import Thytrader.Portfolios.LossStop

/-!
# Only a reset clears a latch

Any number of cycles, starts and resets of one portfolio side by side, another party between any
two of their calls. Each call knows the row as it last read it; the row's revision grows with
every write, so a write under the revision it read is over exactly that row
(`Desk.Behaves`). A cycle and a start therefore keep the stored latch (`loss_stop_latched_iff`).
-/

namespace Thytrader.Portfolios

open Lib Scene
open Trading

variable {scene : Scene} {seen : Seen} {desk desk' : Desk} {event : DeskEvent}

/-- A running call. -/
structure RuntimeTask where
  request : RuntimeCall
  program : RuntimeProgram Unit

/-- The stores and the running calls. -/
structure Desk where
  scene : Scene
  tasks : List RuntimeTask

/-- A call starts, a running one makes its next store call, the portfolio is edited, or anything
happens to the deployments. -/
inductive DeskEvent where
  | begin (request : RuntimeCall)
  | advance (index : Nat) (inputs : RuntimeInputs)
  | edit (event : StoreEvent)
  | books (execution : MemoryStore)

namespace Desk

variable (portfolioId : Uuid)

/-- The desk after an event: nothing when no such call waits. -/
def play (desk : Desk) : DeskEvent → Option Desk
  | .begin request =>
    some { desk with tasks := desk.tasks ++ [⟨request, request.program portfolioId⟩] }
  | .advance index inputs =>
    match desk.tasks[index]? with
    | some ⟨request, .perform op next⟩ =>
      let (answer, scene) := desk.scene.perform portfolioId inputs op
      some { scene, tasks := desk.tasks.set index ⟨request, next answer⟩ }
    | _ => none
  | .edit event => some { desk with scene := desk.scene.edited event }
  | .books execution => some { desk with scene := { desk.scene with execution := execution } }

def Step (desk : Desk) (event : DeskEvent) (desk' : Desk) : Prop :=
  (∀ expected reads, event ≠ .edit ⟨.delete portfolioId expected, reads⟩) ∧
    desk.play portfolioId event = some desk'

/-- No running calls, over any stores and any runtime row. -/
def Initial (desk : Desk) : Prop := desk.tasks = []

/-- The event is a call of a reset. -/
def IsReset (desk : Desk) (event : DeskEvent) : Prop :=
  ∃ index inputs context program, event = .advance index inputs ∧
    desk.tasks[index]? = some ⟨.reset context, program⟩

/-! ## The invariant -/

/-- A row as read: no newer than the stored one, and the same under the same revision. -/
def Current (scene : Scene) (seen : Seen) : Prop :=
  ∀ runtime, seen.runtime = some runtime →
    runtime.revision ≤ scene.runtime.revision ∧
      (runtime.revision = scene.runtime.revision → runtime = scene.runtime)

/-- The task keeps its discipline, knowing a row that was once stored. -/
def Behaves (scene : Scene) (task : RuntimeTask) : Prop :=
  ∃ seen, Current scene seen ∧
    Guarded (task.request.discipline portfolioId) seen task.program (fun _ _ => True)

/-- Every running call behaves. -/
def Inv (desk : Desk) : Prop := ∀ task ∈ desk.tasks, Behaves portfolioId desk.scene task

/-- The row is the same, or it has a larger revision. -/
def Grows (scene scene' : Scene) : Prop :=
  scene'.runtime = scene.runtime ∨ scene.runtime.revision < scene'.runtime.revision

end Desk

section

variable {portfolioId : Uuid} {inputs : RuntimeInputs}

open Desk

theorem Desk.Current.grows {scene' : Scene} (h : Current scene seen) (hgrows : Grows scene scene') :
    Current scene' seen := by
  intro runtime hread
  obtain ⟨hle, hsame⟩ := h runtime hread
  rcases hgrows with hrow | hlt
  · rw [hrow]
    exact ⟨hle, hsame⟩
  · exact ⟨hle.trans hlt.le, fun heq => absurd (heq ▸ hle) (not_le.mpr hlt)⟩

theorem perform_grows (scene : Scene) (op : RuntimeOp) :
    Grows scene (scene.perform portfolioId inputs op).2 := by
  cases op with
  | writeRuntime =>
    unfold Scene.perform
    dsimp only
    split
    · exact .inl rfl
    · unfold writeRuntime
      split
      next heq =>
        exact .inr (by dsimp only; omega)
      · exact .inl rfl
  | _ => exact .inl rfl

theorem Desk.Current.read (h : seen.runtime = some scene.runtime) : Current scene seen := by
  intro runtime hread
  rw [h] at hread
  cases hread
  exact ⟨le_rfl, fun _ => rfl⟩

/-- What a call knows stays true of the scene after it. -/
theorem Desk.Current.learn (h : Current scene seen) (op : RuntimeOp) :
    Current (scene.perform portfolioId inputs op).2
      (seen.learn op (scene.perform portfolioId inputs op).1) := by
  have hgrown := h.grows (@perform_grows portfolioId inputs scene op)
  cases op with
  | runtimeView =>
    unfold Scene.perform Seen.learn at *
    dsimp only at *
    cases scene.aggregate portfolioId inputs.library with
    | error => exact hgrown
    | ok => exact .read rfl
  | get =>
    unfold Scene.perform Seen.learn at *
    dsimp only at *
    cases scene.aggregate portfolioId inputs.library with
    | error | ok => exact hgrown
  | runtimeState =>
    unfold Scene.perform Seen.learn at *
    dsimp only at *
    cases scene.portfolios.portfolio portfolioId with
    | error => exact hgrown
    | ok => exact .read rfl
  | writeRuntime state expectedRevision =>
    have hseen (answer : Outcome (Option PortfolioRuntimeState)) :
        (seen.learn (.writeRuntime state expectedRevision) answer).runtime = seen.runtime := by
      rcases answer with _ | _ | _
      · rfl
      · rfl
      · rfl
    intro runtime hread
    rw [hseen] at hread
    exact hgrown runtime hread
  | _ => exact hgrown

theorem Desk.Behaves.grows {scene' : Scene} {task : RuntimeTask}
    (h : Behaves portfolioId scene task) (hgrows : Grows scene scene') :
    Behaves portfolioId scene' task := by
  obtain ⟨seen, hcurrent, hguarded⟩ := h
  exact ⟨seen, hcurrent.grows hgrows, hguarded⟩

/-- A step starts a call, edits the portfolio or the deployments, or makes one store call. -/
theorem Desk.Step.cases (h : desk.Step portfolioId event desk') :
    (∃ index inputs request op next, event = .advance index inputs ∧
        desk.tasks[index]? = some ⟨request, .perform op next⟩ ∧
        desk' = ⟨(desk.scene.perform portfolioId inputs op).2, desk.tasks.set index
          ⟨request, next (desk.scene.perform portfolioId inputs op).1⟩⟩) ∨
      (desk'.scene.runtime = desk.scene.runtime ∧ ∀ task ∈ desk'.tasks, task ∈ desk.tasks ∨
        task.program = task.request.program portfolioId) := by
  obtain ⟨-, hplay⟩ := h
  cases event with
  | begin =>
    cases hplay
    refine .inr ⟨rfl, fun task htask => ?_⟩
    rcases List.mem_append.mp htask with hold | hnew
    · exact .inl hold
    · rw [List.mem_singleton.mp hnew]
      exact .inr rfl
  | edit =>
    cases hplay
    exact .inr ⟨runtime_edited _ _, fun task htask => .inl htask⟩
  | books =>
    cases hplay
    exact .inr ⟨rfl, fun task htask => .inl htask⟩
  | advance index inputs =>
    unfold Desk.play at hplay
    dsimp only at hplay
    split at hplay
    next request op next htask =>
      exact .inl ⟨index, inputs, request, op, next, rfl, htask, (Option.some.inj hplay).symm⟩
    · cases hplay

theorem Desk.Inv.step (h : desk.Inv portfolioId) (hstep : desk.Step portfolioId event desk') :
    desk'.Inv portfolioId := by
  rcases hstep.cases with ⟨index, inputs, request, op, next, -, htask, rfl⟩ | ⟨hrow, htasks⟩
  · intro task hmem
    obtain ⟨seen, hcurrent, hguarded⟩ := h _ (List.mem_of_getElem? htask)
    rcases List.mem_or_eq_of_mem_set hmem with hold | rfl
    · exact (h task hold).grows (perform_grows desk.scene op)
    · exact ⟨_, hcurrent.learn op, hguarded.2 _ trivial⟩
  · intro task hmem
    rcases htasks task hmem with hold | hnew
    · exact (h task hold).grows (.inl hrow)
    · exact ⟨{}, fun _ hread => absurd hread (by simp), hnew ▸ task.request.guarded⟩

theorem Desk.Inv.reachable (h : Reachable Desk.Initial (Desk.Step portfolioId) desk) :
    desk.Inv portfolioId :=
  h.invariant (Desk.Inv portfolioId)
    (fun s hinitial task hmem => by rw [hinitial] at hmem; exact absurd hmem (by simp))
    (fun _ _ _ hinv hstep => hinv.step hstep)

/-- A write a call other than a reset makes keeps a stored latch. -/
theorem latch_perform {request : RuntimeCall} {op : RuntimeOp} (hcurrent : Current scene seen)
    (hrequire : (request.discipline portfolioId).require seen op)
    (hreset : ∀ context, request ≠ .reset context)
    (hlatched : scene.runtime.breakerLatched = true) :
    (scene.perform portfolioId inputs op).2.runtime.latchOf = scene.runtime.latchOf := by
  cases op with
  | writeRuntime state expectedRevision =>
    obtain ⟨-, runtime, hread, hrevision, hwrites⟩ := hrequire state expectedRevision rfl
    unfold Scene.perform
    dsimp only
    split
    · rfl
    · unfold writeRuntime
      split
      next heq =>
        -- the compare-and-set found the row as read
        obtain rfl := (hcurrent runtime hread).2 (hrevision ▸ heq).symm
        cases request with
        | supervise => exact hwrites hlatched
        | start =>
          rw [PortfolioRuntimeState.breakerLatched, hwrites.1] at hlatched
          cases hlatched
        | reset context => exact absurd rfl (hreset context)
      · rfl
  | _ => rfl

/-- In every interleaving a stored latch stays as it is, but for the calls of a reset. -/
theorem latch_kept (h : Reachable Desk.Initial (Desk.Step portfolioId) desk)
    (hstep : desk.Step portfolioId event desk') (hreset : ¬desk.IsReset event)
    (hlatched : desk.scene.runtime.breakerLatched = true) :
    desk'.scene.runtime.latchOf = desk.scene.runtime.latchOf := by
  rcases hstep.cases with ⟨index, inputs, request, op, next, rfl, htask, rfl⟩ | ⟨hrow, -⟩
  · obtain ⟨seen, hcurrent, hguarded⟩ := Desk.Inv.reachable h _ (List.mem_of_getElem? htask)
    refine latch_perform hcurrent hguarded.1 (fun context heq => hreset ?_) hlatched
    subst heq
    exact ⟨index, inputs, context, _, rfl, htask⟩
  · rw [hrow]

end

/-! ## The loss stop -/

/-- As long as every cycle sees the capital of its baseline, the daily loss stop is latched exactly
when a cycle since the last reset lost the limit against it while no drawdown stop was latched; and
only a reset's calls change a stored latch. -/
theorem loss_stop_latched_iff (portfolioId : Uuid) :
    (∀ w, Reachable (Watched.Initial portfolioId) (Watched.Step portfolioId) w →
      ∀ limit, Steady w.history → Limited limit w.history →
        (w.scene.runtime.breakerReason = some .portfolioDailyLossStop ↔ Lost limit w.history)) ∧
    ∀ desk event desk', Reachable Desk.Initial (Desk.Step portfolioId) desk →
      desk.Step portfolioId event desk' → ¬desk.IsReset event →
      desk.scene.runtime.breakerLatched = true →
      desk'.scene.runtime.latchOf = desk.scene.runtime.latchOf :=
  ⟨fun _ h => (Watched.Inv.reachable h).stop, fun _ _ _ h hstep => latch_kept h hstep⟩

/-- A run of events, none of them an edit. -/
def Watched.play (portfolioId : Uuid) (w : Watched) (events : List LossEvent) : Watched :=
  events.foldl (fun w event => w.after portfolioId event) w

def LossEvent.keepsPortfolio (portfolioId : Uuid) : LossEvent → Bool
  | .edit ⟨.delete id _, _⟩ => id ≠ portfolioId
  | _ => true

variable (events : List LossEvent)

theorem Watched.play_reachable {portfolioId : Uuid} {w : Watched}
    (h : Reachable (Watched.Initial portfolioId) (Watched.Step portfolioId) w)
    (hkept : events.all (LossEvent.keepsPortfolio portfolioId) = true) :
    Reachable (Watched.Initial portfolioId) (Watched.Step portfolioId)
      (w.play portfolioId events) := by
  induction events generalizing w with
  | nil => exact h
  | cons _ _ ih =>
    obtain ⟨hevent, hrest⟩ := Bool.and_eq_true _ _ ▸ List.all_cons ▸ hkept
    refine ih (h.next ⟨fun expected reads heq => ?_, rfl⟩) hrest
    rw [heq] at hevent
    exact absurd hevent (by simp [LossEvent.keepsPortfolio])

def createdWithStops : StoreEvent :=
  ⟨.create
    { coreRequest with
      limits := {
        dailyLossQuote := some ⟨100, by decide +kernel⟩
        maxDrawdownFraction := some ⟨1 / 20, by decide +kernel⟩ } }
    ⟨.operator, .api, 0⟩ 1 [2], usdcReads⟩

def markedBook (equity : Option Decimal) : Deployment :=
  { id := 5
    strategyFingerprint := some "f"
    strategyId := some 7
    productId := "BTC-USDC"
    mode := .paper
    status := .running
    cash := 600
    phase := .flat
    createdAt := 2000
    updatedAt := 2000
    paperStartingCash := some 600
    allocatedCapital := some 600
    performanceEquity := equity
    portfolioId := some 1 }

def markedStore (equity : Option Decimal) : MemoryStore :=
  { MemoryStore.empty with deployments := Dict.empty.set 5 (markedBook equity) }

/-- The strategies answer, and starting the sleeve creates its book. -/
def stopInputs : RuntimeInputs where
  library := usdcReads.joined
  create := fun _ _ _ => markedStore none

def undeployed : Watched :=
  ⟨⟨(newRegistry.after createdWithStops).store, { portfolioId := 1 }, MemoryStore.empty⟩, []⟩

def deployedRun : List LossEvent :=
  [.start { revision := 1 } ⟨.operator, .api, 1000⟩ stopInputs, .cycle 3000 stopInputs]

/-- Down 60, then 150, on one day. -/
def losingRun : List LossEvent :=
  deployedRun ++ [.books (markedStore (some 540)), .cycle 4000 stopInputs,
    .books (markedStore (some 450)), .cycle 5000 stopInputs]

/-- Up by nothing and down by nothing, with the capital cut to 800 in between. -/
def capitalCut : List LossEvent :=
  deployedRun ++ [.edit ⟨.update 1 { revision := 1, capitalQuote := some ⟨800, by decide +kernel⟩ }
    ⟨.operator, .api, 3500⟩, usdcReads⟩, .cycle 4000 stopInputs]

/-- Down 150 at once. -/
def droppedRun : List LossEvent :=
  deployedRun ++ [.books (markedStore (some 450)), .cycle 4000 stopInputs]

theorem undeployed_reachable (hkept : events.all (LossEvent.keepsPortfolio 1) = true) :
    Reachable (Watched.Initial 1) (Watched.Step 1) (undeployed.play 1 events) :=
  Watched.play_reachable events (.start ⟨rfl, rfl⟩) hkept

/-- A drawdown stop latched first keeps the daily loss stop unlatched through a larger loss, and a
capital cut latches the daily loss stop without any loss. -/
theorem loss_stop_not_trading_alone :
    (∃ w, Reachable (Watched.Initial 1) (Watched.Step 1) w ∧ Steady w.history ∧
      Limited 100 w.history ∧ EverLost 100 w.history ∧
      w.scene.runtime.breakerReason ≠ some .portfolioDailyLossStop) ∧
    ∃ w, Reachable (Watched.Initial 1) (Watched.Step 1) w ∧ Limited 100 w.history ∧
      ¬EverLost 100 w.history ∧
      w.scene.runtime.breakerReason = some .portfolioDailyLossStop := by
  have hlosing : (undeployed.play 1 losingRun).history = [
      .cycle 0 1000 (-150) (some 100) (some .portfolioDrawdownStop),
      .cycle 0 1000 (-60) (some 100) none, .cycle 0 1000 0 (some 100) none, .start 0 1000] := by
    decide +kernel
  have hcut : (undeployed.play 1 capitalCut).history = [
      .cycle 0 800 0 (some 100) none, .cycle 0 1000 0 (some 100) none, .start 0 1000] := by
    decide +kernel
  refine ⟨⟨_, undeployed_reachable losingRun (by decide), ?_, ?_, ?_, by decide +kernel⟩,
    _, undeployed_reachable capitalCut (by decide), ?_, ?_, by decide +kernel⟩
  · rw [hlosing]
    simp [Steady, baseline]
  · rw [hlosing]
    simp [Limited]
  · rw [hlosing]
    simp only [EverLost, baseline]
    norm_num
  · rw [hcut]
    simp [Limited]
  · rw [hcut]
    simp only [EverLost, baseline]
    norm_num

theorem loss_stop_latched_iff_dropped :
    (undeployed.play 1 droppedRun).scene.runtime.breakerReason = some .portfolioDailyLossStop ∧
      Lost 100 (undeployed.play 1 droppedRun).history := by
  have hdropped : (undeployed.play 1 droppedRun).history = [
      .cycle 0 1000 (-150) (some 100) none, .cycle 0 1000 0 (some 100) none, .start 0 1000] := by
    decide +kernel
  have hlatched : (undeployed.play 1 droppedRun).scene.runtime.breakerReason =
      some .portfolioDailyLossStop := by
    decide +kernel
  refine ⟨hlatched, ?_⟩
  refine ((loss_stop_latched_iff 1).1 _ (undeployed_reachable droppedRun (by decide)) 100 ?_ ?_).mp
    hlatched
  · rw [hdropped]
    simp [Steady, baseline]
  · rw [hdropped]
    simp [Limited]

end Thytrader.Portfolios
