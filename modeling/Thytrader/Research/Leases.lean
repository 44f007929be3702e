import Thytrader.Research.Jobs

/-!
# Research leases are exclusive, attempts are bounded

A `Bench` is the tables and the calls in flight with a log for each row: who was granted it, who
handed it back, and when a lease was swept or dropped. From the log come the workers that still hold
a grant (`holders`), and the numbers of claims and graceful releases.

`RowInv` ties the log to the columns: the holders are the owner the row names, and `attempts` is the
number of claims less the number of releases. A sweep fails its orphans at the attempt limit in one
statement and re-queues the rest in the next; a row orphaned between the two is re-queued whatever
its attempts. `research_leases_exclusive` holds of every interleaving in which no re-queueing
statement finds such a row (`RequeueSpares`).
-/

namespace Thytrader.Research

open Lib List Statement

variable {owner : String} {queue : ResearchQueueName}

/-! ## The log of a row -/

/-- What happened to a row's lease. -/
inductive LeaseEvent where
  | claimed (owner : String)
  | released (owner : String)
  | dropped (owner : String)
  | swept
  deriving DecidableEq, Repr

/-- The workers that hold a row, after one more event. -/
def LeaseEvent.apply (holders : List String) : LeaseEvent → List String
  | .claimed owner => owner :: holders
  | .released owner => holders.erase owner
  | .dropped owner => holders.erase owner
  | .swept => []

/-- The workers that were granted a row and have not lost it since. -/
def holders (log : List LeaseEvent) : List String := log.foldl LeaseEvent.apply []

/-- How often a row was claimed. -/
def claims (log : List LeaseEvent) : Nat :=
  log.countP (fun | .claimed _ => true | _ => false)

/-- How often a row was gracefully released. -/
def releases (log : List LeaseEvent) : Nat :=
  log.countP (fun | .released _ => true | _ => false)

def Statement.leaseEvent : Statement → Option LeaseEvent
  | .claim _ owner _ _ => some (.claimed owner)
  | .release _ owner _ => some (.released owner)
  | .sweepCancel _ _ => some .swept
  | .sweepFail _ _ _ _ => some .swept
  | .sweepRequeue _ _ _ => some .swept
  | .clearLease _ _ owner => some (.dropped owner)
  | .replace (some owner) _ values _ =>
    if values.status.terminal then some (.dropped owner) else none
  | _ => none

/-- The tables, the calls in flight, and the log of every row. -/
structure Bench where
  world : World
  log : ResearchQueueName → Uuid → List LeaseEvent

def Bench.observe (bench : Bench) (event : Event) (queue : ResearchQueueName) (jobId : Uuid) :
    List LeaseEvent :=
  match bench.world.statement event, (bench.world.tables.table queue).get? jobId with
  | some statement, some row =>
    if statement.picks bench.world.tables queue row then
      bench.log queue jobId ++ statement.leaseEvent.toList
    else bench.log queue jobId
  | _, _ => bench.log queue jobId

def Bench.apply (bench : Bench) (event : Event) : Bench :=
  ⟨bench.world.apply event, bench.observe event⟩

/-- Empty tables and no history. -/
def Bench.initial : Bench := ⟨World.initial, fun _ _ => []⟩

/-- A re-queueing statement finds no orphan that used up its attempts. -/
def RequeueSpares (maxAttempts : Nat) (world : World) (event : Event) : Prop :=
  ∀ queue orphaned updatedAt,
    world.statement event = some (.sweepRequeue queue orphaned updatedAt) →
    ∀ jobId row, (world.tables.table queue).get? jobId = some row → orphaned.test row = true →
      row.attempts < maxAttempts

/-- One step of an interleaving whose re-queueing statements spare spent rows. -/
def sparingStep (maxAttempts : Nat) (bench : Bench) (event : Event) (next : Bench) : Prop :=
  RequeueSpares maxAttempts bench.world event ∧ next = bench.apply event

/-! ## What the methods write -/

/-- A row nobody has worked on. -/
structure JobRow.Fresh (row : JobRow) : Prop where
  status : row.status = .queued
  leaseOwner : row.leaseOwner = none
  attempts : row.attempts = 0

def Statement.Scoped : Statement → Prop
  | .insertJob _ row => row.Fresh
  | .replace _ _ values _ => values.status ≠ .queued
  | _ => True

/-- Every statement of a method is scoped, whatever the earlier ones answered. -/
def scope : Discipline Statement Statement.Answer Unit where
  require _ statement := statement.Scoped
  answers _ _ := True
  learn _ _ _ := ()

/-- A method all of whose statements are scoped. -/
abbrev Methodical {α : Type} (program : JobProgram α) : Prop :=
  Guarded scope () program (fun _ _ => True)

section

variable {statement : Statement}

theorem methodical_statement (h : statement.Scoped) :
    Methodical (JobProgram.statement statement) := ⟨h, fun _ _ => trivial⟩

theorem methodical_bind {α β : Type} {program : JobProgram α} {next : α → JobProgram β}
    (h : Methodical program) (hnext : ∀ value, Methodical (next value)) :
    Methodical (program >>= next) := h.bind (fun _ value _ => hnext value)

theorem methodical_discard {α : Type} {program : JobProgram α} (h : Methodical program) :
    Methodical program.discard := methodical_bind h (fun _ => trivial)

theorem requireRecord_methodical (jobId : Uuid) : Methodical (requireRecord jobId) := by
  refine methodical_bind (methodical_statement trivial) ?_
  intro record
  cases record with
  | none | some => exact trivial

variable (queue : ResearchQueueName)

theorem create_methodical {row : JobRow} (h : row.Fresh) :
    Methodical (create queue row) := by
  refine methodical_bind (methodical_statement h) ?_
  intro inserted
  split
  · exact trivial
  · cases queue with
    | researchJobs => exact methodical_bind (requireRecord_methodical _) (fun _ => trivial)
    | portfolioBacktestJobs => exact trivial

theorem replaceJob_methodical (leaseOwner : Option String) (jobId : Uuid) {values : Replacement}
    (now : Time) (h : values.status ≠ .queued) :
    Methodical (replaceJob leaseOwner jobId values now) := by
  have hscoped : (replace leaseOwner jobId values now).Scoped := h
  refine methodical_bind (methodical_statement hscoped) ?_
  intro count
  split
  · exact trivial
  · exact requireRecord_methodical jobId

theorem cancel_methodical (jobId : Uuid) (now : Time) : Methodical (cancel jobId now) := by
  refine methodical_bind (methodical_statement trivial) ?_
  intro current
  cases current with
  | none => exact trivial
  | some =>
    simp only
    split
    · exact trivial
    · split
      next hrunning =>
        exact replaceJob_methodical none jobId now (by simp [hrunning])
      · exact replaceJob_methodical none jobId now (by simp)

theorem claim_methodical (owner : String) (leaseSeconds : Duration)
    (reading : ResearchQueueName → ClaimReading) (order : List ResearchQueueName) :
    Methodical (claim owner leaseSeconds reading order) := by
  induction order with
  | nil => exact trivial
  | cons queue _ ih =>
    have hscoped : (Statement.claim queue owner leaseSeconds (reading queue)).Scoped := trivial
    refine methodical_bind (methodical_statement hscoped) ?_
    intro claimed
    cases claimed with
    | none => exact ih
    | some => exact trivial

theorem sweepTable_methodical (orphaned : Orphaned) (maxAttempts : Nat) (updatedAt : Time) :
    Methodical (sweepTable queue orphaned maxAttempts updatedAt) := by
  have hrest : ∀ cancelled : Nat, Methodical (do
      let failed : Nat ← JobProgram.statement (.sweepFail queue orphaned maxAttempts updatedAt)
      let requeued : Nat ← JobProgram.statement (.sweepRequeue queue orphaned updatedAt)
      (pure { requeued := requeued, cancelled := cancelled, failed := failed } :
        JobProgram RequeueCounts)) := by
    intro cancelled
    refine methodical_bind (methodical_statement trivial) (fun failed => ?_)
    exact methodical_bind (methodical_statement trivial) (fun requeued => trivial)
  cases queue with
  | researchJobs => exact methodical_bind (methodical_statement trivial) hrest
  | portfolioBacktestJobs => exact hrest 0

theorem sweep_methodical (orphaned : Orphaned) (maxAttempts : Nat) (updatedAt : Time)
    (queues : List ResearchQueueName) :
    Methodical (sweep orphaned maxAttempts updatedAt queues) := by
  induction queues with
  | nil => exact trivial
  | cons queue _ ih =>
    refine methodical_bind (sweepTable_methodical queue orphaned maxAttempts updatedAt) ?_
    intro counts
    exact methodical_bind ih (fun rest => trivial)

theorem Call.methodical (call : Call) : Methodical call.program := by
  cases call with
  | createResearch | createPortfolio => exact create_methodical _ ⟨rfl, rfl, rfl⟩
  | claim => exact methodical_discard (claim_methodical _ _ _ _)
  | renew | release =>
    refine methodical_discard (methodical_bind (methodical_statement trivial) (fun _ => ?_))
    exact methodical_bind (methodical_statement trivial) (fun _ => trivial)
  | requeueExpired | requeueLineage => exact methodical_discard (sweep_methodical _ _ _ _)
  | clearLease | expireStale => exact methodical_discard (methodical_statement trivial)
  | write _ _ outcome =>
    refine methodical_discard (replaceJob_methodical _ _ _ ?_)
    cases outcome <;> simp [WorkerWrite.values]
  | cancel => exact methodical_discard (cancel_methodical _ _)

end

/-! ## One row -/

/-- The columns of a row agree with its log. -/
structure RowInv (maxAttempts : Nat) (row : JobRow) (log : List LeaseEvent) : Prop where
  holders : holders log = row.leaseOwner.toList
  balance : row.attempts + releases log = claims log
  queued : row.status = .queued → row.leaseOwner = none ∧ row.attempts < maxAttempts
  held : row.leaseOwner.isSome = true → 1 ≤ row.attempts
  bounded : row.attempts ≤ maxAttempts

section

variable {maxAttempts : Nat} {row next : JobRow} {log : List LeaseEvent}

section

variable (log : List LeaseEvent) (event : LeaseEvent)

theorem holders_append : holders (log ++ [event]) = event.apply (holders log) := by
  rw [holders, foldl_append]
  rfl

theorem claims_append : claims (log ++ [event]) = claims log + claims [event] := countP_append ..

theorem releases_append :
    releases (log ++ [event]) = releases log + releases [event] := countP_append ..

end

theorem heldBy_eq_true (h : row.heldBy owner = true) :
    row.leaseOwner = some owner ∧ row.status = .running := by
  simpa [JobRow.heldBy] using h

section

variable (h : RowInv maxAttempts row log)
include h

theorem RowInv.sweep (howner : next.leaseOwner = none) (hattempts : next.attempts = row.attempts)
    (hqueued : next.status = .queued → row.attempts < maxAttempts) :
    RowInv maxAttempts next (log ++ [.swept]) := by
  refine ⟨?_, ?_, ?_, ?_, ?_⟩
  · rw [holders_append, howner]
    rfl
  · rw [claims_append, releases_append, hattempts]
    exact h.balance
  · exact fun hstatus => ⟨howner, hattempts ▸ hqueued hstatus⟩
  · rw [howner]
    exact fun hsome => absurd hsome (by simp)
  · exact hattempts ▸ h.bounded

/-- A row its owner gives up without a new claim. -/
theorem RowInv.drop (hold : row.leaseOwner = some owner) (howner : next.leaseOwner = none)
    (hattempts : next.attempts = row.attempts) (hqueued : next.status ≠ .queued) :
    RowInv maxAttempts next (log ++ [.dropped owner]) := by
  refine ⟨?_, ?_, ?_, ?_, ?_⟩
  · rw [holders_append, h.holders, hold, howner]
    simp [LeaseEvent.apply]
  · rw [claims_append, releases_append, hattempts]
    exact h.balance
  · exact fun hstatus => absurd hstatus hqueued
  · rw [howner]
    exact fun hsome => absurd hsome (by simp)
  · exact hattempts ▸ h.bounded

theorem RowInv.keep (howner : next.leaseOwner = row.leaseOwner)
    (hattempts : next.attempts = row.attempts)
    (hqueued : next.status = .queued → row.status = .queued) : RowInv maxAttempts next log := by
  refine ⟨?_, ?_, ?_, ?_, ?_⟩
  · rw [howner]
    exact h.holders
  · rw [hattempts]
    exact h.balance
  · intro hstatus
    rw [howner, hattempts]
    exact h.queued (hqueued hstatus)
  · rw [howner, hattempts]
    exact h.held
  · exact hattempts ▸ h.bounded

theorem RowInv.change (hchange : RowChange queue statement row next) (hscoped : statement.Scoped)
    (hspares : ∀ orphaned updatedAt, statement = .sweepRequeue queue orphaned updatedAt →
      orphaned.test row = true → row.attempts < maxAttempts) :
    RowInv maxAttempts next (log ++ statement.leaseEvent.toList) := by
  cases hchange with
  | @claims _ owner leaseSeconds reading _ hclaimable =>
    have hqueued : row.status = .queued := by
      simp only [JobRow.claimable, Bool.and_eq_true, decide_eq_true_eq] at hclaimable
      exact hclaimable.1.1
    obtain ⟨hfree, hlimit⟩ := h.queued hqueued
    refine ⟨?_, ?_, ?_, ?_, ?_⟩
    · rw [show (Statement.claim queue owner leaseSeconds reading).leaseEvent.toList =
        [.claimed owner] from rfl, holders_append, h.holders, hfree]
      rfl
    · rw [show (Statement.claim queue owner leaseSeconds reading).leaseEvent.toList =
        [.claimed owner] from rfl, claims_append, releases_append]
      show row.attempts + 1 + (releases log + 0) = claims log + 1
      have hbalance := h.balance
      omega
    · exact fun hstatus => absurd hstatus (by simp [claimedRow])
    · exact fun _ => Nat.le_add_left 1 row.attempts
    · exact hlimit
  | renews =>
    rw [show (Statement.renew _ _ _).leaseEvent.toList = [] from rfl, append_nil]
    exact h.keep rfl rfl id
  | @releases _ owner _ hheld updatedAt =>
    obtain ⟨howner, -⟩ := heldBy_eq_true hheld
    have hpositive := h.held (by rw [howner]; rfl)
    have hbound := h.bounded
    have hbalance := h.balance
    refine ⟨?_, ?_, ?_, ?_, ?_⟩
    · rw [show (Statement.release queue owner updatedAt).leaseEvent.toList =
        [.released owner] from rfl, holders_append, h.holders, howner]
      simp [LeaseEvent.apply, releasedRow]
    · rw [show (Statement.release queue owner updatedAt).leaseEvent.toList =
        [.released owner] from rfl, claims_append, releases_append]
      show row.attempts - 1 + (releases log + 1) = claims log + 0
      omega
    · intro _
      refine ⟨rfl, ?_⟩
      show row.attempts - 1 < maxAttempts
      omega
    · exact fun hsome => absurd hsome (by simp [releasedRow])
    · show row.attempts - 1 ≤ maxAttempts
      omega
  | cancels => exact h.sweep rfl rfl (fun hstatus => absurd hstatus (by simp [sweptRow]))
  | fails => exact h.sweep rfl rfl (fun hstatus => absurd hstatus (by simp [failedRow, sweptRow]))
  | requeues horphaned updatedAt =>
    exact h.sweep rfl rfl (fun _ => hspares _ updatedAt rfl horphaned)
  | @clears _ owner _ howner =>
    refine h.drop howner rfl rfl ?_
    intro hstatus
    have hfree := (h.queued hstatus).1
    rw [howner] at hfree
    cases hfree
  | @replaces leaseOwner _ hfence values now =>
    cases leaseOwner with
    | none =>
      rw [show (replace none row.jobId values now).leaseEvent.toList = [] from rfl,
        append_nil]
      refine h.keep ?_ rfl (fun hstatus => absurd hstatus hscoped)
      simp [Replacement.apply]
    | some owner =>
      obtain ⟨howner, -⟩ := heldBy_eq_true (show row.heldBy owner = true from hfence)
      by_cases hended : values.status.terminal = true
      · rw [show (replace (some owner) row.jobId values now).leaseEvent =
          some (.dropped owner) from if_pos hended]
        refine h.drop howner ?_ rfl hscoped
        simp [Replacement.apply, hended]
      · rw [show (replace (some owner) row.jobId values now).leaseEvent = none from
          if_neg hended]
        refine (append_nil log).symm ▸ h.keep ?_ rfl (fun hstatus => absurd hstatus hscoped)
        simp [Replacement.apply, hended]
  | expires =>
    rw [show (expireJobs _).leaseEvent.toList = [] from rfl, append_nil]
    exact h.keep rfl rfl (fun hstatus => absurd hstatus (by simp [expiredRow]))

end

theorem JobRow.Fresh.rowInv (h : row.Fresh) (hlimit : 1 ≤ maxAttempts) :
    RowInv maxAttempts row [] := by
  refine ⟨?_, ?_, ?_, ?_, ?_⟩
  · rw [h.leaseOwner]
    rfl
  · rw [h.attempts]
    rfl
  · exact fun _ => ⟨h.leaseOwner, by rw [h.attempts]; exact hlimit⟩
  · rw [h.leaseOwner]
    exact fun hsome => absurd hsome (by simp)
  · rw [h.attempts]
    exact Nat.zero_le _

end

/-! ## Every interleaving -/

/-- The invariant of a bench. -/
structure BenchInv (maxAttempts : Nat) (bench : Bench) : Prop where
  keyed : bench.world.tables.Keyed
  clients : ∀ client ∈ bench.world.clients, Methodical client
  rows : ∀ queue jobId row, (bench.world.tables.table queue).get? jobId = some row →
    RowInv maxAttempts row (bench.log queue jobId)
  absent : ∀ queue jobId, (bench.world.tables.table queue).get? jobId = none →
    bench.log queue jobId = []

section

variable {maxAttempts : Nat} {bench next : Bench} {event : Event}
variable {statement : Statement} {row : JobRow}

theorem BenchInv.scoped (hinv : BenchInv maxAttempts bench)
    (h : bench.world.statement event = some statement) : statement.Scoped := by
  unfold World.statement at h
  split at h
  · cases h
  next index =>
    split at h
    next performed continued hclient =>
      cases h
      exact (hinv.clients _ (mem_of_getElem? hclient)).1
    · cases h

theorem BenchInv.clients_apply (hinv : BenchInv maxAttempts bench) :
    ∀ client ∈ (bench.world.apply event).clients, Methodical client := by
  intro client hclient
  cases event with
  | call call =>
    rcases mem_append.mp hclient with hold | hnew
    · exact hinv.clients client hold
    · rw [mem_singleton.mp hnew]
      exact call.methodical
  | advance =>
    simp only [World.apply] at hclient
    split at hclient
    next statement continued hat =>
      rcases mem_or_eq_of_mem_set hclient with hold | rfl
      · exact hinv.clients client hold
      · exact (hinv.clients _ (mem_of_getElem? hat)).2 _ trivial
    · exact hinv.clients client hclient

theorem sparingStep_inv (hlimit : 1 ≤ maxAttempts) (hinv : BenchInv maxAttempts bench)
    (hstep : sparingStep maxAttempts bench event next) : BenchInv maxAttempts next := by
  obtain ⟨hspares, rfl⟩ := hstep
  refine ⟨apply_keyed hinv.keyed, hinv.clients_apply, ?_, ?_⟩
  · intro queue jobId row hrow
    change ((bench.world.apply event).tables.table queue).get? jobId = some row at hrow
    show RowInv maxAttempts row (bench.observe event queue jobId)
    rw [apply_tables] at hrow
    unfold Bench.observe
    cases hstatement : bench.world.statement event with
    | none =>
      rw [hstatement] at hrow
      exact hinv.rows queue jobId row hrow
    | some statement =>
      rw [hstatement] at hrow
      cases hbefore : (bench.world.tables.table queue).get? jobId with
      | none =>
        obtain ⟨rfl, -⟩ := exec_fresh hinv.keyed statement hbefore hrow
        have hfresh : row.Fresh := hinv.scoped hstatement
        rw [hinv.absent queue jobId hbefore]
        exact hfresh.rowInv hlimit
      | some before =>
        obtain ⟨after, hafter, hchange⟩ := exec_row hinv.keyed statement hbefore
        rw [hrow] at hafter
        cases hafter
        have hold := hinv.rows queue jobId before hbefore
        rcases hchange with ⟨hmissed, rfl⟩ | ⟨hpicked, hchange⟩
        · simp only [hmissed]
          exact hold
        · simp only [hpicked, if_true]
          refine hold.change hchange (hinv.scoped hstatement) ?_
          rintro orphaned updatedAt rfl horphaned
          exact hspares queue orphaned updatedAt hstatement jobId before hbefore horphaned
  · intro queue jobId hnone
    change ((bench.world.apply event).tables.table queue).get? jobId = none at hnone
    show bench.observe event queue jobId = []
    rw [apply_tables] at hnone
    unfold Bench.observe
    cases hstatement : bench.world.statement event with
    | none =>
      rw [hstatement] at hnone
      exact hinv.absent queue jobId hnone
    | some statement =>
      rw [hstatement] at hnone
      cases hbefore : (bench.world.tables.table queue).get? jobId with
      | none => exact hinv.absent queue jobId hbefore
      | some =>
        -- a row that was there is still there
        obtain ⟨after, hafter, -⟩ := exec_row hinv.keyed statement hbefore
        rw [hnone] at hafter
        cases hafter

theorem initial_inv (maxAttempts : Nat) : BenchInv maxAttempts Bench.initial := by
  refine ⟨initial_keyed, fun client hclient => absurd hclient (by simp [Bench.initial,
    World.initial]), ?_, fun _ _ _ => rfl⟩
  intro queue jobId row hrow
  cases queue <;>
    exact absurd hrow (by simp [Bench.initial, World.initial, JobTables.table])

theorem Run.benchInv (hlimit : 1 ≤ maxAttempts) {events : List Event}
    (hrun : Run (sparingStep maxAttempts) Bench.initial events bench) :
    BenchInv maxAttempts bench :=
  Run.invariant (BenchInv maxAttempts) (fun _ _ _ hinv hstep => sparingStep_inv hlimit hinv hstep)
    hrun (initial_inv maxAttempts)

/-- The worker a statement speaks for. -/
def Statement.actor : Statement → Option String
  | .renew _ owner _ => some owner
  | .release _ owner _ => some owner
  | .clearLease _ _ owner => some owner
  | .replace (some owner) _ _ _ => some owner
  | _ => none

/-- A worker's statement changes only rows leased to it; a fenced write, only running ones. -/
theorem RowChange.leased {after : JobRow} (h : RowChange queue statement row after)
    (hactor : statement.actor = some owner) :
    row.leaseOwner = some owner ∧
      ((∃ jobId values now, statement = .replace (some owner) jobId values now) →
        row.status = .running) := by
  cases h with
  | renews hheld | releases hheld =>
    cases hactor
    exact ⟨(heldBy_eq_true hheld).1, fun _ => (heldBy_eq_true hheld).2⟩
  | clears howner =>
    cases hactor
    refine ⟨howner, ?_⟩
    rintro ⟨jobId, values, now, hreplace⟩
    cases hreplace
  | @replaces leaseOwner _ hfence values now =>
    cases leaseOwner with
    | none => exact absurd hactor (by simp [actor])
    | some worker =>
      obtain rfl := Option.some.inj hactor
      have hheld := heldBy_eq_true (show row.heldBy worker = true from hfence)
      exact ⟨hheld.1, fun _ => hheld.2⟩
  | _ => exact absurd hactor (by simp [actor])

/-! ## Whole sweeps -/

def JobProgram.run {α : Type} (program : JobProgram α) (tables : JobTables) : JobTables :=
  match program with
  | .done _ => tables
  | .raise _ => tables
  | .perform statement next =>
    JobProgram.run (next (statement.exec tables).1) (statement.exec tables).2

variable {tables : JobTables}

theorem exec_missed (hkeyed : tables.Keyed) {jobId : Uuid}
    (hrow : (tables.table queue).get? jobId = some row)
    (hmissed : statement.picks tables queue row = false) :
    ((statement.exec tables).2.table queue).get? jobId = some row := by
  obtain ⟨after, hafter, ⟨-, rfl⟩ | ⟨hpicked, -⟩⟩ := exec_row hkeyed statement hrow
  · exact hafter
  · rw [hmissed] at hpicked
    exact absurd hpicked (by decide)

theorem sweepTable_fails (hkeyed : tables.Keyed) {orphaned : Orphaned} {jobId : Uuid}
    (updatedAt : Time) (hrow : (tables.table queue).get? jobId = some row)
    (horphaned : orphaned.test row = true) (hlimit : maxAttempts ≤ row.attempts)
    (hrequested : row.cancelRequested = false) :
    (((sweepTable queue orphaned maxAttempts updatedAt).run tables).table queue).get? jobId =
      some (failedRow queue updatedAt row) := by
  -- failing and re-queueing, once the cancelling statement has passed the row by
  have hrest : ∀ {swept : JobTables}, swept.Keyed →
      (swept.table queue).get? jobId = some row →
      (((sweepRequeue queue orphaned updatedAt).exec
        ((sweepFail queue orphaned maxAttempts updatedAt).exec swept).2).2.table
          queue).get? jobId = some (failedRow queue updatedAt row) := by
    intro swept hswept hfound
    have hpicked : (sweepFail queue orphaned maxAttempts updatedAt).picks swept queue
        row = true := by
      simp [picks, horphaned, hlimit]
    have hfailed : (((sweepFail queue orphaned maxAttempts updatedAt).exec
        swept).2.table queue).get? jobId = some (failedRow queue updatedAt row) := by
      obtain ⟨after, hafter, ⟨hmissed, -⟩ | ⟨-, hchange⟩⟩ :=
        exec_row hswept (.sweepFail queue orphaned maxAttempts updatedAt) hfound
      · rw [hpicked] at hmissed
        exact absurd hmissed (by decide)
      · cases hchange
        exact hafter
    refine exec_missed (exec_keyed hswept _) hfailed ?_
    cases orphaned <;> simp [picks, Orphaned.test, failedRow, sweptRow]
  cases queue with
  | researchJobs =>
    refine hrest (exec_keyed hkeyed (.sweepCancel orphaned updatedAt)) ?_
    exact exec_missed hkeyed hrow (by simp [picks, hrequested])
  | portfolioBacktestJobs => exact hrest hkeyed hrow

/-- In every interleaving of the stores' statements in which no re-queueing one finds an orphan
without attempts left: a running row has at most the one holder it names; a worker's statement
changes only rows leased to it, a fenced write only running ones; no row is lost; a row is claimed
at most `maxAttempts` times more than it was gracefully released, and a sweep that then finds it
orphaned fails it. -/
theorem research_leases_exclusive (hlimit : 1 ≤ maxAttempts) {events : List Event}
    (hrun : Run (sparingStep maxAttempts) Bench.initial events bench) :
    (∀ queue jobId row, (bench.world.tables.table queue).get? jobId = some row →
      row.status = .running → holders (bench.log queue jobId) = row.leaseOwner.toList) ∧
    (∀ event statement owner queue jobId row,
      bench.world.statement event = some statement → statement.actor = some owner →
      (bench.world.tables.table queue).get? jobId = some row →
      ((bench.world.apply event).tables.table queue).get? jobId ≠ some row →
      row.leaseOwner = some owner ∧
        ((∃ id values now, statement = .replace (some owner) id values now) →
          row.status = .running)) ∧
    (∀ event queue jobId row, (bench.world.tables.table queue).get? jobId = some row →
      ∃ after, ((bench.world.apply event).tables.table queue).get? jobId = some after ∧
        (after.status = .queued ∨ after.status = .running ∨ after.status.terminal = true)) ∧
    (∀ queue jobId, claims (bench.log queue jobId) ≤
      releases (bench.log queue jobId) + maxAttempts) ∧
    (∀ queue orphaned updatedAt jobId row,
      (bench.world.tables.table queue).get? jobId = some row →
      claims (bench.log queue jobId) = releases (bench.log queue jobId) + maxAttempts →
      orphaned.test row = true → row.cancelRequested = false →
      (((sweepTable queue orphaned maxAttempts updatedAt).run
        bench.world.tables).table queue).get? jobId = some (failedRow queue updatedAt row)) := by
  have hinv := Run.benchInv hlimit hrun
  refine ⟨?_, ?_, ?_, ?_, ?_⟩
  · intro queue jobId row hrow _
    exact (hinv.rows queue jobId row hrow).holders
  · intro event statement owner queue jobId row hstatement hactor hrow hchanged
    rw [apply_tables, hstatement] at hchanged
    obtain ⟨after, hafter, ⟨-, rfl⟩ | ⟨-, hchange⟩⟩ := exec_row hinv.keyed statement hrow
    · exact absurd hafter hchanged
    · exact hchange.leased hactor
  · intro event queue jobId row hrow
    have hstatus : ∀ status : ResearchJobStatus,
        status = .queued ∨ status = .running ∨ status.terminal = true := by
      intro status
      cases status <;> simp [ResearchJobStatus.terminal]
    rw [apply_tables]
    cases bench.world.statement event with
    | none => exact ⟨row, hrow, hstatus _⟩
    | some statement =>
      obtain ⟨after, hafter, -⟩ := exec_row hinv.keyed statement hrow
      exact ⟨after, hafter, hstatus _⟩
  · intro queue jobId
    cases hrow : (bench.world.tables.table queue).get? jobId with
    | none =>
      rw [hinv.absent queue jobId hrow]
      exact Nat.zero_le _
    | some row =>
      have hbalance := (hinv.rows queue jobId row hrow).balance
      have hbound := (hinv.rows queue jobId row hrow).bounded
      omega
  · intro queue orphaned updatedAt jobId row hrow hspent horphaned hrequested
    have hbalance := (hinv.rows queue jobId row hrow).balance
    exact sweepTable_fails hinv.keyed updatedAt hrow horphaned (by omega) hrequested

end

/-! ## Two schedules -/

/-- Claim readings one second after the sample jobs were queued. -/
def claimReadings : ResearchQueueName → ClaimReading :=
  fun _ => { now := 1000000, updatedAt := 1000000 }

/-- A portfolio backtest is queued, and worker `a` claims it for thirty seconds. -/
def claimedOnce : List Event :=
  [.call (.createPortfolio 9 "plan" 2 0), .advance 0,
    .call (.claim "host/1/0/a" 30000000 claimReadings researchQueues), .advance 1, .advance 1]

def requeueSpares (maxAttempts : Nat) (bench : Bench) (event : Event) : Bool :=
  match bench.world.statement event with
  | some (.sweepRequeue queue orphaned _) => (bench.world.tables.table queue).entries.all
      (fun entry => !orphaned.test entry.2 || entry.2.attempts < maxAttempts)
  | _ => true

theorem sparingStep_of_requeueSpares (bench : Bench) (event : Event)
    (h : requeueSpares maxAttempts bench event = true) :
    sparingStep maxAttempts bench event (bench.apply event) := by
  refine ⟨fun queue orphaned updatedAt hstatement jobId row hrow horphaned => ?_, rfl⟩
  unfold requeueSpares at h
  rw [hstatement] at h
  simpa [horphaned] using List.all_eq_true.mp h _ (Dict.get?_eq_some_iff.mp hrow)

/-- Its lease runs out, a sweep re-queues the row and worker `b` claims it. -/
def claimedTwice : List Event :=
  claimedOnce ++
    [.call (.requeueExpired 2 40000000 40000000 [.portfolioBacktestJobs]), .advance 2, .advance 2,
      .call (.claim "host/1/1/b" 30000000 (fun _ => ⟨50000000, 50000000, []⟩) [.portfolioBacktestJobs]),
      .advance 3, .advance 3]

theorem research_leases_exclusive_claimed :
    holders ((claimedTwice.foldl Bench.apply Bench.initial).log .portfolioBacktestJobs 9) =
      ["host/1/1/b"] ∧
    claims ((claimedTwice.foldl Bench.apply Bench.initial).log .portfolioBacktestJobs 9) = 2 ∧
    claims ((claimedTwice.foldl Bench.apply Bench.initial).log .portfolioBacktestJobs 9) ≤
      releases ((claimedTwice.foldl Bench.apply Bench.initial).log .portfolioBacktestJobs 9) + 2 := by
  obtain ⟨-, -, -, hclaims, -⟩ := research_leases_exclusive (Nat.le_succ 1)
    (.of_along sparingStep_of_requeueSpares
      (show Along (requeueSpares 2) _ _ claimedTwice = true by decide +kernel))
  exact ⟨by decide +kernel, by decide +kernel, hclaims .portfolioBacktestJobs 9⟩

/-- With one attempt allowed, a sweep's failing statement runs while the lease stands; worker `a`
then clears its lease, the re-queueing statement takes the row for orphaned, and worker `b` claims
it again. -/
def sweptBetween : List Event :=
  claimedOnce ++
    [.call (.requeueExpired 1 2000000 2000000 [.portfolioBacktestJobs]), .advance 2,
      .call (.clearLease .portfolioBacktestJobs 9 "host/1/0/a"), .advance 3, .advance 2,
      .call (.claim "host/1/1/b" 30000000 claimReadings [.portfolioBacktestJobs]), .advance 4]

/-- Two claims, no release, one attempt allowed. -/
theorem spent_row_requeued :
    Run (fun bench event next => next = Bench.apply bench event) Bench.initial sweptBetween
      (sweptBetween.foldl Bench.apply Bench.initial) ∧
    ¬ claims ((sweptBetween.foldl Bench.apply Bench.initial).log .portfolioBacktestJobs 9) ≤
      releases ((sweptBetween.foldl Bench.apply Bench.initial).log .portfolioBacktestJobs 9) + 1 := by
  exact ⟨.of_along (fun _ _ _ => by rfl) (show Along (fun _ _ => true) _ _ _ = true by rfl),
    by decide +kernel⟩

end Thytrader.Research
