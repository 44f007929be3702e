import Thytrader.Portfolios.Supervisor

/-!
# The writes of the runtime row

What a cycle, a start and a reset know when they write the runtime row, as a discipline over
their calls: every write is under the revision of the row as last read. A cycle keeps a latch it
read, a start read none and begins a run at the capital, and only a reset writes a row without
the latch it read.
-/

namespace Thytrader.Portfolios

open Lib
open Trading

/-! ## What leaves the runtime row alone -/

/-- A call that neither reads nor writes the portfolio and its runtime row, nor lists the
deployments. -/
def RuntimeOp.Plain : RuntimeOp → Prop
  | .planSleeves _ => True
  | .startSleeve _ _ => True
  | .getDeployment _ => True
  | .saveDeployment _ _ => True
  | _ => False

structure SameRow (s t : Scene) : Prop where
  portfolios : t.portfolios = s.portfolios
  runtime : t.runtime = s.runtime

theorem SameRow.rfl {s : Scene} : SameRow s s := ⟨Eq.refl _, Eq.refl _⟩

theorem SameRow.trans {s t u : Scene} (h : SameRow s t) (h' : SameRow t u) : SameRow s u :=
  ⟨h'.portfolios.trans h.portfolios, h'.runtime.trans h.runtime⟩

section

variable {portfolioId : Uuid} {inputs : RuntimeInputs}

theorem perform_plain {op : RuntimeOp} (hop : op.Plain) (s : Scene) :
    SameRow s (s.perform portfolioId inputs op).2 := by
  cases op with
  | planSleeves | getDeployment => exact .rfl
  | startSleeve | saveDeployment => exact ⟨rfl, rfl⟩
  | _ => exact hop.elim

theorem only_call (op : RuntimeOp) (hop : op.Plain) : (call op).Only RuntimeOp.Plain :=
  ⟨hop, fun _ => trivial⟩

theorem only_orExecutionError {α : Type} (answer : Result α) :
    (orExecutionError answer).Only RuntimeOp.Plain := by
  cases answer with
  | ok | error => exact trivial

theorem only_saveUnlessMoved (item row : Deployment) :
    (saveUnlessMoved item row).Only RuntimeOp.Plain := by
  refine (only_call (.saveDeployment row item.revision) trivial).bind fun answer => ?_
  cases answer with
  | ok => exact trivial
  | error =>
    dsimp only
    split
    · exact trivial
    · exact trivial

theorem only_syncAllocations (aggregate : PortfolioAggregate) (now : Time)
    (occupied : List Deployment) :
    (syncAllocations aggregate now occupied).Only RuntimeOp.Plain := by
  induction occupied with
  | nil => exact trivial
  | cons _ _ ih =>
    unfold syncAllocations
    split
    · exact ih
    · dsimp only
      split
      · exact ih
      · exact (only_saveUnlessMoved _ _).bind fun _ => ih

theorem only_equityUnresolved (run : List Deployment) :
    (equityUnresolved run).Only RuntimeOp.Plain := by
  induction run with
  | nil => exact trivial
  | cons book _ ih =>
    unfold equityUnresolved
    split
    · exact ih
    · refine (only_call (.getDeployment book.id) trivial).bind fun answer => ?_
      cases answer with
      | error failure =>
        cases failure <;> exact trivial
      | ok =>
        refine (only_orExecutionError _).bind fun ledger => ?_
        split
        · exact ih
        · exact trivial

theorem only_pauseRunning (detail : String) (now : Time) (running : List Deployment) :
    (pauseRunning detail now running).Only RuntimeOp.Plain := by
  induction running with
  | nil => exact trivial
  | cons _ _ ih => exact (only_saveUnlessMoved _ _).bind fun _ => ih

theorem only_enforceLatch (state : PortfolioRuntimeState) (running : List Deployment) (now : Time) :
    (enforceLatch state running now).Only RuntimeOp.Plain := by
  unfold enforceLatch
  split
  · exact trivial
  · split
    · exact trivial
    · exact (only_pauseRunning _ _ _).bind fun _ => trivial

theorem Plain.run {α : Type} {p : RuntimeProgram α} (hp : p.Only RuntimeOp.Plain)
    (portfolioId : Uuid) (inputs : RuntimeInputs) (s : Scene) :
    SameRow s (p.run (Scene.perform portfolioId inputs) s).2 :=
  hp.run _ _ (fun _ => .rfl) SameRow.trans (fun _ s hop => perform_plain hop s)

end

/-! ## What is known at a write -/

/-- The three calls that write the row. -/
inductive RuntimeCall where
  | supervise (now : Time)
  | start (request : StartRequest) (context : MutationContext)
  | reset (context : MutationContext)

def RuntimeCall.program (portfolioId : Uuid) : RuntimeCall → RuntimeProgram Unit
  | .supervise now => do
    let _ ← supervisePortfolio portfolioId now
  | .start request context => Portfolios.start portfolioId request context
  | .reset context => do
    let _ ← resetBreaker portfolioId context

/-- What a call has read last, and whether it has written. -/
structure Seen where
  aggregate : Option PortfolioAggregate := none
  runtime : Option PortfolioRuntimeState := none
  listed : Option (List Deployment) := none
  wrote : Bool := false

def Seen.learn (seen : Seen) : (op : RuntimeOp) → op.Answer → Seen
  | .listDeployments, deployments => { seen with listed := some deployments }
  | .runtimeView, some view =>
    { seen with aggregate := some view.aggregate, runtime := some view.runtime }
  | .get, .ok aggregate => { seen with aggregate := some aggregate }
  | .runtimeState, .ok runtime => { seen with runtime := some runtime }
  | .writeRuntime _ _, .ok (some _) => { seen with wrote := true }
  | _, _ => seen

def PortfolioRuntimeState.latchOf (runtime : PortfolioRuntimeState) :
    Option BreakerReason × Option String × Option Time :=
  (runtime.breakerReason, runtime.breakerDetail, runtime.breakerLatchedAt)

/-- What a call may write over the row it read. -/
def RuntimeCall.Writes (portfolioId : Uuid) (seen : Seen) (runtime state : PortfolioRuntimeState) :
    RuntimeCall → Prop
  | .supervise _ => runtime.breakerLatched = true → state.latchOf = runtime.latchOf
  | .start _ context =>
    runtime.breakerReason = none ∧ ∃ aggregate, seen.aggregate = some aggregate ∧
      state = runtime.beginRun aggregate.portfolio.capitalQuote
        (millisecondContext context).occurredAt
  | .reset context =>
    ∃ aggregate listed, seen.aggregate = some aggregate ∧ seen.listed = some listed ∧
      state = runtime.cleared
        (runEquity aggregate (runMembers (members listed portfolioId) runtime))
        (millisecondContext context).occurredAt

/-- A call's writes, one at most, are of the row as last read. -/
def RuntimeCall.discipline (portfolioId : Uuid) (request : RuntimeCall) :
    Discipline RuntimeOp RuntimeOp.Answer Seen where
  require seen op := ∀ state expectedRevision, op = .writeRuntime state expectedRevision →
    seen.wrote = false ∧ ∃ runtime, seen.runtime = some runtime ∧
      expectedRevision = runtime.revision ∧ request.Writes portfolioId seen runtime state
  answers _ _ := True
  learn := Seen.learn

variable {portfolioId : Uuid} {request : RuntimeCall} {seen : Seen}
  {α β : Type} {post : Seen → α → Prop}

theorem guarded_call {op : RuntimeOp} {f : op.Answer → RuntimeProgram α}
    (hop : ∀ state expected, op ≠ .writeRuntime state expected)
    (h : ∀ answer, Guarded (request.discipline portfolioId) (seen.learn op answer) (f answer) post) :
    Guarded (request.discipline portfolioId) seen (call op >>= f) post := by
  exact ⟨fun state expected hwrite => absurd hwrite (hop state expected), fun answer _ => h answer⟩

/-- A good answer of the portfolio store continues. -/
theorem guarded_check {answer : Outcome β} {f : β → RuntimeProgram α}
    (h : ∀ value, answer = .ok value → Guarded (request.discipline portfolioId) seen (f value) post) :
    Guarded (request.discipline portfolioId) seen (orPortfolioError answer >>= f) post := by
  cases answer with
  | ok value => exact h value rfl
  | error => exact trivial

theorem guarded_get {f : PortfolioAggregate → RuntimeProgram α}
    (h : ∀ aggregate, Guarded (request.discipline portfolioId)
      { seen with aggregate := some aggregate } (f aggregate) post) :
    Guarded (request.discipline portfolioId) seen
      (call .get >>= fun answer => orPortfolioError answer >>= f) post := by
  refine guarded_call (fun _ _ hop => by cases hop) fun answer => guarded_check fun aggregate hok => ?_
  rw [hok]
  exact h aggregate

theorem guarded_runtimeState {f : PortfolioRuntimeState → RuntimeProgram α}
    (h : ∀ runtime, Guarded (request.discipline portfolioId)
      { seen with runtime := some runtime } (f runtime) post) :
    Guarded (request.discipline portfolioId) seen
      (call .runtimeState >>= fun answer => orPortfolioError answer >>= f) post := by
  refine guarded_call (fun _ _ hop => by cases hop) fun answer => guarded_check fun runtime hok => ?_
  rw [hok]
  exact h runtime

theorem guarded_listDeployments {f : List Deployment → RuntimeProgram α}
    (h : ∀ listed, Guarded (request.discipline portfolioId)
      { seen with listed := some listed } (f listed) post) :
    Guarded (request.discipline portfolioId) seen (call .listDeployments >>= f) post :=
  guarded_call (fun _ _ hop => by cases hop) h

theorem guarded_write {state runtime : PortfolioRuntimeState}
    {next : Outcome (Option PortfolioRuntimeState) → RuntimeProgram α}
    (hwrote : seen.wrote = false) (hread : seen.runtime = some runtime)
    (hwrites : request.Writes portfolioId seen runtime state)
    (hfailed : ∀ error, Guarded (request.discipline portfolioId) seen (next (.error error)) post)
    (hmoved : Guarded (request.discipline portfolioId) seen (next (.ok none)) post)
    (hwritten : ∀ written, Guarded (request.discipline portfolioId) { seen with wrote := true }
      (next (.ok (some written))) post) :
    Guarded (request.discipline portfolioId) seen
      (call (.writeRuntime state runtime.revision) >>= next) post := by
  refine ⟨fun state' expected hwrite => ?_, fun answer _ => ?_⟩
  · obtain ⟨rfl, rfl⟩ := RuntimeOp.writeRuntime.inj hwrite
    exact ⟨hwrote, runtime, hread, rfl, hwrites⟩
  · rcases answer with error | _ | written
    · exact hfailed error
    · exact hmoved
    · exact hwritten written

theorem Plain.guarded {p : RuntimeProgram α} (hp : p.Only RuntimeOp.Plain) :
    Guarded (request.discipline portfolioId) seen p (fun seen' _ => seen' = seen) := by
  induction p with
  | done => exact rfl
  | raise => exact trivial
  | perform op _ ih =>
    refine ⟨fun state expected hwrite => ?_, fun answer _ => ?_⟩
    · exact (hwrite ▸ hp.1 : RuntimeOp.Plain (.writeRuntime state expected)).elim
    · have hlearn : seen.learn op answer = seen := by
        cases op with
        | planSleeves | startSleeve | getDeployment | saveDeployment => rfl
        | _ => exact hp.1.elim
      show Guarded _ (seen.learn op answer) _ _
      rw [hlearn]
      exact ih answer (hp.2 answer)

/-- After plain calls the rest knows what was known. -/
theorem Plain.guarded_bind {p : RuntimeProgram α} (hp : p.Only RuntimeOp.Plain)
    {f : α → RuntimeProgram β} {post : Seen → β → Prop}
    (h : ∀ value, Guarded (request.discipline portfolioId) seen (f value) post) :
    Guarded (request.discipline portfolioId) seen (p >>= f) post :=
  (Plain.guarded hp).bind fun _ value hsame => hsame ▸ h value

theorem only_forM {body : α → RuntimeProgram Unit} (xs : List α)
    (hbody : ∀ x, (body x).Only RuntimeOp.Plain) : (xs.forM body).Only RuntimeOp.Plain := by
  induction xs with
  | nil => exact trivial
  | cons x _ ih => exact (hbody x).bind fun _ => ih

theorem requireBreakerClear_eq_ok {reason : Option BreakerReason} {u : Unit}
    (h : requireBreakerClear reason = .ok u) : reason = none := by
  cases reason with
  | none => rfl
  | some => exact absurd h (by simp [requireBreakerClear])

variable {context : MutationContext} {aggregate : PortfolioAggregate}
  {runtime : PortfolioRuntimeState}

theorem beginFreshRun_guarded {startRequest : StartRequest} (hwrote : seen.wrote = false)
    (haggregate : seen.aggregate = some aggregate) (hread : seen.runtime = some runtime)
    (hclear : runtime.breakerReason = none) :
    Guarded ((RuntimeCall.start startRequest context).discipline portfolioId) seen
      (beginFreshRun aggregate runtime (millisecondContext context).occurredAt)
      (fun _ _ => True) := by
  refine guarded_write hwrote hread ?writes ?failed ?moved ?written
  case writes => exact ⟨hclear, aggregate, haggregate, rfl⟩
  case failed => exact fun _ => trivial
  case moved => exact trivial
  case written => exact fun _ => trivial

/-- A start writes, over a row read without a latch, the fresh run at the capital it read. -/
theorem start_guarded (startRequest : StartRequest) (context : MutationContext) :
    Guarded ((RuntimeCall.start startRequest context).discipline portfolioId) {}
      (start portfolioId startRequest context) (fun _ _ => True) := by
  refine guarded_get fun aggregate => guarded_check fun _ _ => guarded_check fun _ _ =>
    guarded_check fun _ _ => guarded_runtimeState fun runtime => guarded_check fun _ hclear =>
    guarded_check fun _ _ => guarded_check fun targets _ => guarded_listDeployments fun listed =>
    guarded_call (fun _ _ hop => by cases hop) fun answer => guarded_check fun _ _ => ?_
  have hsleeves (seen' : Seen) (planned : List SleeveView) :
      Guarded ((RuntimeCall.start startRequest context).discipline portfolioId) seen'
        (planned.forM fun view => call
          (.startSleeve view (aggregate.portfolio.capitalQuote * view.sleeve.weightFraction)))
        (fun _ _ => True) :=
    (Plain.guarded (only_forM _ fun view => only_call (.startSleeve view _) trivial)).mono
      fun _ _ _ => trivial
  split
  · exact (beginFreshRun_guarded rfl rfl rfl (requireBreakerClear_eq_ok hclear)).bind
      fun seen' _ _ => hsleeves seen' _
  · exact hsleeves _ _

theorem only_readSnapshot (item : Deployment) : (readSnapshot item).Only RuntimeOp.Plain :=
  (only_call (.getDeployment item.id) trivial).bind fun answer =>
    (only_orExecutionError answer).bind fun _ => trivial

/-- A reset writes the row it read, cleared at the equity of the books it listed. -/
theorem resetAttempt_guarded (hwrote : seen.wrote = false) :
    Guarded ((RuntimeCall.reset context).discipline portfolioId) seen
      (resetAttempt portfolioId (millisecondContext context).occurredAt)
      (fun seen' written => written = none → seen'.wrote = false) := by
  refine guarded_get fun aggregate => guarded_runtimeState fun runtime =>
    guarded_listDeployments fun listed => ?_
  refine Plain.guarded_bind (only_forM _ only_readSnapshot) fun _ => guarded_check fun _ _ => ?_
  refine guarded_write hwrote ?read ?writes ?failed ?moved ?written
  case read => rfl
  case writes => exact ⟨aggregate, listed, rfl, rfl, rfl⟩
  case failed => exact fun _ => trivial
  case moved => exact fun _ => hwrote
  case written => exact fun _ h => absurd h (by simp)

theorem resetBreaker_guarded (context : MutationContext) :
    Guarded ((RuntimeCall.reset context).discipline portfolioId) {}
      (resetBreaker portfolioId context) (fun _ _ => True) := by
  refine (resetAttempt_guarded rfl).bind fun seen written hmoved => ?_
  cases written with
  | some => exact trivial
  | none =>
    refine (resetAttempt_guarded (hmoved rfl)).bind fun _ written _ => ?_
    cases written with
    | some | none => exact trivial

/-- A cycle keeps a latch it read. -/
theorem recordEquity_guarded (run : List Deployment) (now : Time) (hwrote : seen.wrote = false)
    (hread : seen.runtime = some runtime) :
    Guarded ((RuntimeCall.supervise now).discipline portfolioId) seen
      (recordEquity aggregate runtime run now) (fun _ _ => True) := by
  unfold recordEquity
  dsimp only
  split
  · exact trivial
  · refine guarded_write hwrote hread ?writes ?failed ?moved ?written
    case writes =>
      intro hlatched
      unfold newTrip
      rw [if_pos hlatched]
      rfl
    case failed => exact fun _ => trivial
    case moved => exact trivial
    case written => exact fun _ => trivial

theorem superviseOne_guarded {view : PortfolioRuntimeView} (deployments : List Deployment)
    (now : Time) (hwrote : seen.wrote = false) (hread : seen.runtime = some view.runtime) :
    Guarded ((RuntimeCall.supervise now).discipline portfolioId) seen
      (superviseOne view deployments now) (fun _ _ => True) := by
  unfold superviseOne
  dsimp only
  split
  · exact trivial
  · refine Plain.guarded_bind (only_syncAllocations _ _ _) fun _ =>
      Plain.guarded_bind (only_equityUnresolved _) fun unresolved => ?_
    have henforce (seen' : Seen) (state : PortfolioRuntimeState) (running : List Deployment) :
        Guarded ((RuntimeCall.supervise now).discipline portfolioId) seen'
          (enforceLatch state running now) (fun _ _ => True) :=
      (Plain.guarded (only_enforceLatch _ _ _)).mono fun _ _ _ => trivial
    split
    · exact henforce _ _ _
    · exact (recordEquity_guarded _ now hwrote hread).bind fun seen' state _ => henforce _ _ _

theorem supervisePortfolio_guarded (now : Time) :
    Guarded ((RuntimeCall.supervise now).discipline portfolioId) {}
      (supervisePortfolio portfolioId now) (fun _ _ => True) := by
  refine guarded_listDeployments fun listed => ?_
  split
  · exact trivial
  · refine guarded_call (fun _ _ hop => by cases hop) fun answer => ?_
    cases answer with
    | none => exact trivial
    | some =>
      refine (superviseOne_guarded listed now rfl rfl).attempt.bind fun _ outcome _ => ?_
      cases outcome with
      | ok => exact trivial
      | error =>
        dsimp only
        split
        · exact trivial
        · exact trivial

theorem RuntimeCall.guarded (request : RuntimeCall) :
    Guarded (request.discipline portfolioId) {} (request.program portfolioId) (fun _ _ => True) := by
  cases request with
  | supervise now => exact (supervisePortfolio_guarded now).bind fun _ _ _ => trivial
  | start startRequest context => exact start_guarded startRequest context
  | reset context => exact (resetBreaker_guarded context).bind fun _ _ _ => trivial

end Thytrader.Portfolios
