import Thytrader.Basic
import Thytrader.Lib.Dict
import Thytrader.Lib.Program

/-!
# Research jobs and their lease queue

Backtests, studies and portfolio backtests are rows of two tables (`research_jobs`,
`portfolio_backtest_jobs`) that one pool of workers claims from. `postgres_research_queue.py`
claims, renews, releases and sweeps leases on both; `postgres_research_jobs.py` creates, cancels and
expires research jobs and carries the workers' fenced writes.

A store method is a program over atomic SQL statements; other clients run between any two. A
statement carries its clock readings, so nothing assumes that clocks agree. `SKIP LOCKED` is a list
of rows the claiming statement finds locked.

`portfolio_backtest_jobs` has no `kind`, `cancel_requested`, `error_code`,
`failed_phase` or fingerprint columns but its result; its rows keep their defaults
here and no statement on that table reads or writes them.
-/

namespace Thytrader.Research

open Lib Dict

/-! ## Rows -/

inductive ResearchJobKind where
  | backtest
  | study
  deriving DecidableEq, Repr

inductive ResearchJobStatus where
  | queued
  | running
  | completed
  | failed
  | cancelled
  | expired
  deriving DecidableEq, Repr

def ResearchJobStatus.terminal : ResearchJobStatus → Bool
  | .queued | .running => false
  | .completed | .failed | .cancelled | .expired => true

inductive ResearchJobErrorCode where
  | backtestWindowRejected
  | studyWindowRejected
  | studyBudgetExceeded
  | researchUnavailable
  | researchWorkerLost
  deriving DecidableEq, Repr

/-- `ResearchQueueName`: the table a row lives in. -/
inductive ResearchQueueName where
  | researchJobs
  | portfolioBacktestJobs
  deriving DecidableEq, Repr

def researchQueues : List ResearchQueueName := [.researchJobs, .portfolioBacktestJobs]

structure JobRow where
  jobId : Uuid
  kind : ResearchJobKind := .backtest
  status : ResearchJobStatus
  strategyId : Uuid := 0
  strategyFingerprint : String := ""
  payload : String
  progressCurrent : Nat := 0
  progressTotal : Nat
  errorMessage : Option String := none
  errorCode : Option ResearchJobErrorCode := none
  failedPhase : Option String := none
  failedDetail : Option String := none
  runFingerprint : Option String := none
  resultFingerprint : Option String := none
  studyFingerprint : Option String := none
  planFingerprint : Option String := none
  createdAt : Time
  updatedAt : Time
  expiresAt : Time
  cancelRequested : Bool := false
  leaseOwner : Option String := none
  leaseExpiresAt : Option Time := none
  attempts : Nat := 0
  deriving DecidableEq, Repr

structure JobTables where
  researchJobs : Dict Uuid JobRow
  portfolioBacktestJobs : Dict Uuid JobRow

namespace JobTables

/-- `_TABLES[queue]`. -/
def table (tables : JobTables) : ResearchQueueName → Dict Uuid JobRow
  | .researchJobs => tables.researchJobs
  | .portfolioBacktestJobs => tables.portfolioBacktestJobs

def withTable (tables : JobTables) (queue : ResearchQueueName) (rows : Dict Uuid JobRow) :
    JobTables :=
  match queue with
  | .researchJobs => { tables with researchJobs := rows }
  | .portfolioBacktestJobs => { tables with portfolioBacktestJobs := rows }

/-- `UPDATE table SET values WHERE condition`. -/
def updateWhere (tables : JobTables) (queue : ResearchQueueName) (condition : JobRow → Bool)
    (values : JobRow → JobRow) : JobTables :=
  tables.withTable queue
    ((tables.table queue).mapValues (fun row => if condition row then values row else row))

/-- How many rows an update matches. -/
def rowCount (tables : JobTables) (queue : ResearchQueueName) (condition : JobRow → Bool) : Nat :=
  (tables.table queue).values.countP condition

end JobTables

/-! ## Statements -/

/-- The rows a sweep takes for orphaned: no lease past the transaction's `now()`, or held under one
lineage. -/
inductive Orphaned where
  | leaseExpired (now : Time)
  | heldByLineage (lineage : String)
  deriving DecidableEq, Repr

/-- `_lease_expired` and `held_by_lineage`. -/
def Orphaned.test : Orphaned → JobRow → Bool
  | .leaseExpired now, row => row.status = .running && row.leaseExpiresAt.all (· < now)
  | .heldByLineage lineage, row =>
    row.status = .running && row.leaseOwner.any (fun owner =>
      startsWith owner.toList lineage.toList)

/-- `_replacement_values`: `none` leaves a column alone. -/
structure Replacement where
  status : ResearchJobStatus
  errorMessage : Option String := none
  errorCode : Option ResearchJobErrorCode := none
  failedPhase : Option String := none
  failedDetail : Option String := none
  runFingerprint : Option String := none
  resultFingerprint : Option String := none
  studyFingerprint : Option String := none
  planFingerprint : Option String := none
  progressCurrent : Option Nat := none
  progressTotal : Option Nat := none
  cancelRequested : Option Bool := none
  deriving DecidableEq, Repr

/-- `text[:limit]`. -/
def clipped (limit : Nat) (text : String) : String := String.ofList (text.toList.take limit)

def Replacement.apply (values : Replacement) (fenced : Bool) (now : Time) (row : JobRow) : JobRow :=
  let clears := fenced && values.status.terminal
  { row with
    status := values.status
    updatedAt := now
    errorMessage := (values.errorMessage.map (clipped 256)).or row.errorMessage
    errorCode := values.errorCode.or row.errorCode
    failedPhase := (values.failedPhase.map (clipped 32)).or row.failedPhase
    failedDetail := (values.failedDetail.map (clipped 500)).or row.failedDetail
    runFingerprint := values.runFingerprint.or row.runFingerprint
    resultFingerprint := values.resultFingerprint.or row.resultFingerprint
    studyFingerprint := values.studyFingerprint.or row.studyFingerprint
    planFingerprint := values.planFingerprint.or row.planFingerprint
    progressCurrent := values.progressCurrent.getD row.progressCurrent
    progressTotal := values.progressTotal.getD row.progressTotal
    cancelRequested := values.cancelRequested.getD row.cancelRequested
    leaseOwner := if clears then none else row.leaseOwner
    leaseExpiresAt := if clears then none else row.leaseExpiresAt }

/-- The clock readings of one claiming statement, and the rows it finds locked. -/
structure ClaimReading where
  now : Time
  updatedAt : Time
  locked : List Uuid := []

/-- The SQL statements of both stores. -/
inductive Statement where
  | insertJob (queue : ResearchQueueName) (row : JobRow)
  | selectJob (jobId : Uuid)
  | claim (queue : ResearchQueueName) (owner : String) (leaseSeconds : Duration)
      (reading : ClaimReading)
  | renew (queue : ResearchQueueName) (owner : String) (leaseExpiresAt : Time)
  | release (queue : ResearchQueueName) (owner : String) (updatedAt : Time)
  | sweepCancel (orphaned : Orphaned) (updatedAt : Time)
  | sweepFail (queue : ResearchQueueName) (orphaned : Orphaned) (maxAttempts : Nat)
      (updatedAt : Time)
  | sweepRequeue (queue : ResearchQueueName) (orphaned : Orphaned) (updatedAt : Time)
  | clearLease (queue : ResearchQueueName) (jobId : Uuid) (owner : String)
  | replace (leaseOwner : Option String) (jobId : Uuid) (values : Replacement) (now : Time)
  | expireJobs (now : Time)

/-- A statement returns whether the key was free, the row read, the row claimed with its attempts,
or the number of rows. -/
def Statement.Answer : Statement → Type
  | .insertJob _ _ => Bool
  | .selectJob _ => Option JobRow
  | .claim _ _ _ _ => Option (Uuid × Nat)
  | _ => Nat

/-- The row a worker holds and may write: `lease_owner = owner AND status = 'running'`. -/
def JobRow.heldBy (row : JobRow) (owner : String) : Bool :=
  row.leaseOwner = some owner && row.status = .running

def JobRow.claimable (row : JobRow) (reading : ClaimReading) : Bool :=
  row.status = .queued && reading.now < row.expiresAt && row.jobId ∉ reading.locked

/-- `ORDER BY created_at, job_id`. -/
def JobRow.before (row other : JobRow) : Bool :=
  row.createdAt < other.createdAt ||
    (row.createdAt = other.createdAt && row.jobId.toNat ≤ other.jobId.toNat)

def claimCandidate (rows : Dict Uuid JobRow) (reading : ClaimReading) : Option JobRow :=
  (rows.values.filter (·.claimable reading)).foldl (fun first row =>
    match first with
    | none => some row
    | some held => if held.before row then some held else some row) none

def workerLostMessage : String :=
  "The research worker stopped while running this job on every allowed attempt; " ++
    "it was not retried."

def claimedRow (owner : String) (leaseSeconds : Duration) (reading : ClaimReading)
    (row : JobRow) : JobRow :=
  { row with
    status := .running
    leaseOwner := some owner
    leaseExpiresAt := some (reading.now + leaseSeconds)
    attempts := row.attempts + 1
    updatedAt := reading.updatedAt }

def releasedRow (queue : ResearchQueueName) (updatedAt : Time) (row : JobRow) : JobRow :=
  { row with
    status := if queue = .researchJobs ∧ row.cancelRequested = true then .cancelled else .queued
    attempts := row.attempts - 1
    progressCurrent := 0
    leaseOwner := none
    leaseExpiresAt := none
    updatedAt := updatedAt }

/-- The columns every sweep clears. -/
def sweptRow (status : ResearchJobStatus) (updatedAt : Time) (row : JobRow) : JobRow :=
  { row with status := status, leaseOwner := none, leaseExpiresAt := none, updatedAt := updatedAt }

def failedRow (queue : ResearchQueueName) (updatedAt : Time) (row : JobRow) : JobRow :=
  { sweptRow .failed updatedAt row with
    errorMessage := some (clipped 256 workerLostMessage)
    errorCode := if queue = .researchJobs then some .researchWorkerLost else row.errorCode }

/-- The row of a job put back into the queue. -/
def requeuedRow (updatedAt : Time) (row : JobRow) : JobRow :=
  { sweptRow .queued updatedAt row with progressCurrent := 0 }

def expiredRow (now : Time) (row : JobRow) : JobRow :=
  { row with
    status := .expired
    updatedAt := now
    errorMessage := some "Research job expired." }

def replaceCondition (leaseOwner : Option String) (jobId : Uuid) (row : JobRow) : Bool :=
  row.jobId = jobId && leaseOwner.all row.heldBy

def Statement.exec : (statement : Statement) → JobTables → statement.Answer × JobTables
  | .insertJob queue row, tables =>
    if ((tables.table queue).get? row.jobId).isSome then (false, tables)
    else (true, tables.withTable queue ((tables.table queue).set row.jobId row))
  | .selectJob jobId, tables => (tables.researchJobs.get? jobId, tables)
  | .claim queue owner leaseSeconds reading, tables =>
    match claimCandidate (tables.table queue) reading with
    | none => (none, tables)
    | some row =>
      (some (row.jobId, row.attempts + 1), tables.withTable queue
        ((tables.table queue).set row.jobId (claimedRow owner leaseSeconds reading row)))
  | .renew queue owner leaseExpiresAt, tables =>
    (tables.rowCount queue (·.heldBy owner), tables.updateWhere queue (·.heldBy owner)
      (fun row => { row with leaseExpiresAt := some leaseExpiresAt }))
  | .release queue owner updatedAt, tables =>
    (tables.rowCount queue (·.heldBy owner),
      tables.updateWhere queue (·.heldBy owner) (releasedRow queue updatedAt))
  | .sweepCancel orphaned updatedAt, tables =>
    let matched := fun row => orphaned.test row && row.cancelRequested
    (tables.rowCount .researchJobs matched,
      tables.updateWhere .researchJobs matched (sweptRow .cancelled updatedAt))
  | .sweepFail queue orphaned maxAttempts updatedAt, tables =>
    let matched := fun row => orphaned.test row && decide (maxAttempts ≤ row.attempts)
    (tables.rowCount queue matched, tables.updateWhere queue matched (failedRow queue updatedAt))
  | .sweepRequeue queue orphaned updatedAt, tables =>
    (tables.rowCount queue orphaned.test,
      tables.updateWhere queue orphaned.test (requeuedRow updatedAt))
  | .clearLease queue jobId owner, tables =>
    let matched := fun row : JobRow => decide (row.jobId = jobId ∧ row.leaseOwner = some owner)
    (tables.rowCount queue matched, tables.updateWhere queue matched
      (fun row => { row with leaseOwner := none, leaseExpiresAt := none }))
  | .replace leaseOwner jobId values now, tables =>
    (tables.rowCount .researchJobs (replaceCondition leaseOwner jobId),
      tables.updateWhere .researchJobs (replaceCondition leaseOwner jobId)
        (values.apply leaseOwner.isSome now))
  | .expireJobs now, tables =>
    let matched := fun row : JobRow => decide (row.expiresAt ≤ now) && !row.status.terminal
    (tables.rowCount .researchJobs matched,
      tables.updateWhere .researchJobs matched (expiredRow now))

/-! ## Store methods -/

/-- The exceptions of both stores. -/
inductive JobError where
  | unavailable (message : String)
  | leaseLost (message : String)
  | keyError (message : String)
  | valueError (message : String)
  deriving DecidableEq, Repr

/-- A store method: statements in sequence, each awaited. -/
abbrev JobProgram (α : Type) := Program JobError Statement Statement.Answer α

def JobProgram.statement (statement : Statement) : JobProgram statement.Answer :=
  .perform statement .done

/-- The text of an unreachable store. -/
def unavailableText : String := "Research jobs are unavailable."

def get (jobId : Uuid) : JobProgram (Option JobRow) := .statement (.selectJob jobId)

/-- The record read back after a write. -/
def requireRecord (jobId : Uuid) : JobProgram JobRow := do
  match ← get jobId with
  | none => .raise (.unavailable unavailableText)
  | some record => pure record

/-- `RESEARCH_JOB_EXPIRY_HOURS` and `PORTFOLIO_BACKTEST_EXPIRY_HOURS`, in microseconds. -/
def jobExpiry : Duration := 24 * 3600 * 1000000

/-- The row `_create` inserts. -/
def newResearchRow (jobId : Uuid) (kind : ResearchJobKind) (payload : String) (strategyId : Uuid)
    (strategyFingerprint : String) (now : Time) : JobRow :=
  { jobId, kind, status := .queued, strategyId, strategyFingerprint, payload, progressTotal := 1,
    createdAt := now, updatedAt := now, expiresAt := now + jobExpiry }

/-- The row `create_job` of the portfolio store inserts. -/
def newPortfolioRow (jobId : Uuid) (payload : String) (sleeveCount : Nat) (now : Time) : JobRow :=
  { jobId, status := .queued, payload, progressTotal := sleeveCount + 1, createdAt := now,
    updatedAt := now, expiresAt := now + jobExpiry }

/-- `_create`; a taken key is the database's integrity error. -/
def create (queue : ResearchQueueName) (row : JobRow) : JobProgram Unit := do
  let inserted : Bool ← JobProgram.statement (.insertJob queue row)
  if inserted = false then .raise (.unavailable unavailableText)
  else
    match queue with
    | .portfolioBacktestJobs => pure ()
    | .researchJobs => do
      let _ ← requireRecord row.jobId
      pure ()

/-- `_replace`, fenced by the store's lease owner when it has one. -/
def replaceJob (leaseOwner : Option String) (jobId : Uuid) (values : Replacement) (now : Time) :
    JobProgram JobRow := do
  let count : Nat ← JobProgram.statement (.replace leaseOwner jobId values now)
  if leaseOwner.isSome ∧ count = 0 then
    .raise (.leaseLost ("Research job " ++ String.ofList (uuidText jobId) ++
      " is no longer leased to this worker."))
  else requireRecord jobId

/-- `cancel`: one read, then one unfenced write. -/
def cancel (jobId : Uuid) (now : Time) : JobProgram JobRow := do
  match ← get jobId with
  | none =>
    .raise (.keyError ("Research job " ++ String.ofList (uuidText jobId) ++ " was not found."))
  | some current =>
    if current.status = .completed then
      .raise (.valueError "Completed research jobs cannot be cancelled.")
    else if current.status = .running then
      replaceJob none jobId { status := current.status, cancelRequested := some true } now
    else replaceJob none jobId { status := .cancelled } now

def expireStale (now : Time) : JobProgram Nat := .statement (.expireJobs now)

/-- `claim`: the first queue in order that has a claimable row. -/
def claim (owner : String) (leaseSeconds : Duration) (reading : ResearchQueueName → ClaimReading) :
    List ResearchQueueName → JobProgram (Option (Uuid × Nat))
  | [] => pure none
  | queue :: order => do
    match ← JobProgram.statement (.claim queue owner leaseSeconds (reading queue)) with
    | some claimed => pure (some claimed)
    | none => claim owner leaseSeconds reading order

/-- `renew`, one statement a table. -/
def renew (owner : String) (leaseSeconds : Duration) (now : Time) : JobProgram Nat := do
  let research : Nat ← JobProgram.statement (.renew .researchJobs owner (now + leaseSeconds))
  let portfolio : Nat ← JobProgram.statement (.renew .portfolioBacktestJobs owner (now + leaseSeconds))
  pure (research + portfolio)

/-- `release`, one statement a table. -/
def release (owner : String) (now : Time) : JobProgram Nat := do
  let research : Nat ← JobProgram.statement (.release .researchJobs owner now)
  let portfolio : Nat ← JobProgram.statement (.release .portfolioBacktestJobs owner now)
  pure (research + portfolio)

structure RequeueCounts where
  requeued : Nat := 0
  cancelled : Nat := 0
  failed : Nat := 0
  deriving DecidableEq, Repr

/-- `_sweep_table`: cancel, then fail at the attempt limit, then re-queue. -/
def sweepTable (queue : ResearchQueueName) (orphaned : Orphaned) (maxAttempts : Nat)
    (updatedAt : Time) : JobProgram RequeueCounts := do
  let cancelled : Nat ← match queue with
    | .researchJobs => JobProgram.statement (.sweepCancel orphaned updatedAt)
    | .portfolioBacktestJobs => pure (0 : Nat)
  let failed : Nat ← JobProgram.statement (.sweepFail queue orphaned maxAttempts updatedAt)
  let requeued : Nat ← JobProgram.statement (.sweepRequeue queue orphaned updatedAt)
  pure { requeued := requeued, cancelled := cancelled, failed := failed }

/-- `_sweep`: `requeue_expired` and `requeue_lineage` differ in the orphaned rows only. -/
def sweep (orphaned : Orphaned) (maxAttempts : Nat) (updatedAt : Time) :
    List ResearchQueueName → JobProgram RequeueCounts
  | [] => pure {}
  | queue :: queues => do
    let counts ← sweepTable queue orphaned maxAttempts updatedAt
    let rest ← sweep orphaned maxAttempts updatedAt queues
    pure ⟨counts.requeued + rest.requeued, counts.cancelled + rest.cancelled,
      counts.failed + rest.failed⟩

def requeueExpired (maxAttempts : Nat) (now updatedAt : Time) (queues : List ResearchQueueName) :
    JobProgram RequeueCounts :=
  sweep (.leaseExpired now) maxAttempts updatedAt queues

def requeueLineage (lineage : String) (maxAttempts : Nat) (updatedAt : Time) :
    JobProgram RequeueCounts :=
  sweep (.heldByLineage lineage) maxAttempts updatedAt researchQueues

def clearLease (queue : ResearchQueueName) (jobId : Uuid) (owner : String) : JobProgram Nat :=
  .statement (.clearLease queue jobId owner)

/-- The outcome a worker records: progress, completion, failure or cancellation. -/
inductive WorkerWrite where
  | markRunning
  | updateProgress (progressCurrent progressTotal : Nat)
  | markCompletedBacktest (runFingerprint resultFingerprint : String)
  | markCompletedStudy (studyFingerprint planFingerprint : String)
  | markFailed (errorMessage : String) (failedPhase failedDetail : Option String)
      (errorCode : Option ResearchJobErrorCode)
  | markCancelled
  deriving DecidableEq, Repr

/-- The replacement a worker's write passes to `_replace`. -/
def WorkerWrite.values : WorkerWrite → Replacement
  | .markRunning => { status := .running }
  | .updateProgress current total =>
    { status := .running, progressCurrent := some current, progressTotal := some total }
  | .markCompletedBacktest run result =>
    { status := .completed, runFingerprint := some run, resultFingerprint := some result }
  | .markCompletedStudy study plan =>
    { status := .completed, studyFingerprint := some study, planFingerprint := some plan }
  | .markFailed message phase detail code =>
    { status := .failed
      errorMessage := some (clipped 256 message)
      errorCode := code
      failedPhase := phase.map (clipped 32)
      failedDetail := detail.map (clipped 500) }
  | .markCancelled => { status := .cancelled }

/-! ## Interleavings -/

/-- A call of one client. -/
inductive Call where
  | createResearch (jobId : Uuid) (kind : ResearchJobKind) (payload : String) (strategyId : Uuid)
      (strategyFingerprint : String) (now : Time)
  | createPortfolio (jobId : Uuid) (payload : String) (sleeveCount : Nat) (now : Time)
  | claim (owner : String) (leaseSeconds : Duration) (reading : ResearchQueueName → ClaimReading)
      (order : List ResearchQueueName)
  | renew (owner : String) (leaseSeconds : Duration) (now : Time)
  | release (owner : String) (now : Time)
  | requeueExpired (maxAttempts : Nat) (now updatedAt : Time) (queues : List ResearchQueueName)
  | requeueLineage (lineage : String) (maxAttempts : Nat) (updatedAt : Time)
  | clearLease (queue : ResearchQueueName) (jobId : Uuid) (owner : String)
  | write (owner : String) (jobId : Uuid) (outcome : WorkerWrite) (now : Time)
  | expireStale (now : Time)
  | cancel (jobId : Uuid) (now : Time)

/-- Run a method for its effect. -/
def JobProgram.discard {α : Type} (program : JobProgram α) : JobProgram Unit :=
  program >>= fun _ => pure ()

/-- The method a call runs. -/
def Call.program : Call → JobProgram Unit
  | .createResearch jobId kind payload strategyId strategyFingerprint now =>
    create .researchJobs (newResearchRow jobId kind payload strategyId strategyFingerprint now)
  | .createPortfolio jobId payload sleeveCount now =>
    create .portfolioBacktestJobs (newPortfolioRow jobId payload sleeveCount now)
  | .claim owner leaseSeconds reading order =>
    JobProgram.discard (Research.claim owner leaseSeconds reading order)
  | .renew owner leaseSeconds now => JobProgram.discard (Research.renew owner leaseSeconds now)
  | .release owner now => JobProgram.discard (Research.release owner now)
  | .requeueExpired maxAttempts now updatedAt queues =>
    JobProgram.discard (Research.requeueExpired maxAttempts now updatedAt queues)
  | .requeueLineage lineage maxAttempts updatedAt =>
    JobProgram.discard (Research.requeueLineage lineage maxAttempts updatedAt)
  | .clearLease queue jobId owner => JobProgram.discard (Research.clearLease queue jobId owner)
  | .write owner jobId outcome now =>
    JobProgram.discard (replaceJob (some owner) jobId outcome.values now)
  | .expireStale now => JobProgram.discard (Research.expireStale now)
  | .cancel jobId now => JobProgram.discard (Research.cancel jobId now)

/-- The tables and every call in flight. -/
structure World where
  tables : JobTables
  clients : List (JobProgram Unit)

/-- A call starts, or the next statement of a call runs. -/
inductive Event where
  | call (call : Call)
  | advance (index : Nat)

def World.statement (world : World) : Event → Option Statement
  | .call _ => none
  | .advance index =>
    match world.clients[index]? with
    | some (.perform statement _) => some statement
    | _ => none

def World.apply (world : World) : Event → World
  | .call call => { world with clients := world.clients ++ [call.program] }
  | .advance index =>
    match world.clients[index]? with
    | some (.perform statement next) =>
      { tables := (statement.exec world.tables).2
        clients := world.clients.set index (next (statement.exec world.tables).1) }
    | _ => world

/-- Both tables empty and nobody calling. -/
def World.initial : World := ⟨⟨empty, empty⟩, []⟩

/-! ## What a statement does to one row -/

section

variable {tables : JobTables} {queue other : ResearchQueueName}

@[simp] theorem table_withTable_self (rows : Dict Uuid JobRow) :
    (tables.withTable queue rows).table queue = rows := by
  cases queue <;> rfl

theorem table_withTable_ne (h : other ≠ queue) (rows : Dict Uuid JobRow) :
    (tables.withTable queue rows).table other = tables.table other := by
  cases queue <;> cases other <;> first | rfl | exact absurd rfl h

theorem get?_updateWhere (condition : JobRow → Bool) (values : JobRow → JobRow) (jobId : Uuid) :
    ((tables.updateWhere queue condition values).table other).get? jobId =
      ((tables.table other).get? jobId).map
        (fun row => if other = queue ∧ condition row = true then values row else row) := by
  unfold JobTables.updateWhere
  by_cases h : other = queue
  · subst h
    rw [table_withTable_self, get?_mapValues]
    simp only [true_and]
  · rw [table_withTable_ne h]
    simp only [h, false_and, if_false, Option.map_id']

variable {row : JobRow} {statement : Statement}

theorem claimCandidate_spec {rows : Dict Uuid JobRow} {reading : ClaimReading}
    (h : claimCandidate rows reading = some row) :
    row ∈ rows.values ∧ row.claimable reading = true := by
  have hfold : ∀ (items : List JobRow) (first : Option JobRow),
      (items.foldl (fun first row =>
        match first with
        | none => some row
        | some held => if held.before row then some held else some row) first) = some row →
      row ∈ items ∨ first = some row := by
    intro items
    induction items with
    | nil => exact fun first h => .inr h
    | cons _ _ ih =>
      intro first h
      rcases ih _ h with hmem | hfirst
      · exact .inl (List.mem_cons_of_mem _ hmem)
      · cases first with
        | none =>
          cases hfirst
          exact .inl (by simp)
        | some =>
          simp only at hfirst
          split at hfirst
          · exact .inr hfirst
          · cases hfirst
            exact .inl (by simp)
  rcases hfold _ _ h with hmem | hnone
  · exact List.mem_filter.mp hmem
  · cases hnone

/-- Everything a statement can change in a row that is there. -/
inductive RowChange : ResearchQueueName → Statement → JobRow → JobRow → Prop where
  | claims {queue : ResearchQueueName} {owner : String} {leaseSeconds : Duration}
      {reading : ClaimReading} {row : JobRow} (hclaimable : row.claimable reading = true) :
      RowChange queue (.claim queue owner leaseSeconds reading) row
        (claimedRow owner leaseSeconds reading row)
  | renews {queue : ResearchQueueName} {owner : String} {row : JobRow}
      (hheld : row.heldBy owner = true) (leaseExpiresAt : Time) :
      RowChange queue (.renew queue owner leaseExpiresAt) row
        { row with leaseExpiresAt := some leaseExpiresAt }
  | releases {queue : ResearchQueueName} {owner : String} {row : JobRow}
      (hheld : row.heldBy owner = true) (updatedAt : Time) :
      RowChange queue (.release queue owner updatedAt) row (releasedRow queue updatedAt row)
  | cancels {orphaned : Orphaned} {row : JobRow} (horphaned : orphaned.test row = true)
      (hrequested : row.cancelRequested = true) (updatedAt : Time) :
      RowChange .researchJobs (.sweepCancel orphaned updatedAt) row
        (sweptRow .cancelled updatedAt row)
  | fails {queue : ResearchQueueName} {orphaned : Orphaned} {maxAttempts : Nat} {row : JobRow}
      (horphaned : orphaned.test row = true) (hlimit : maxAttempts ≤ row.attempts)
      (updatedAt : Time) :
      RowChange queue (.sweepFail queue orphaned maxAttempts updatedAt) row
        (failedRow queue updatedAt row)
  | requeues {queue : ResearchQueueName} {orphaned : Orphaned} {row : JobRow}
      (horphaned : orphaned.test row = true) (updatedAt : Time) :
      RowChange queue (.sweepRequeue queue orphaned updatedAt) row (requeuedRow updatedAt row)
  | clears {queue : ResearchQueueName} {owner : String} {row : JobRow}
      (howner : row.leaseOwner = some owner) :
      RowChange queue (.clearLease queue row.jobId owner) row
        { row with leaseOwner := none, leaseExpiresAt := none }
  | replaces {leaseOwner : Option String} {row : JobRow}
      (hfence : leaseOwner.all row.heldBy = true) (values : Replacement) (now : Time) :
      RowChange .researchJobs (.replace leaseOwner row.jobId values now) row
        (values.apply leaseOwner.isSome now row)
  | expires {row : JobRow} (hlive : row.status.terminal = false) (now : Time) :
      RowChange .researchJobs (.expireJobs now) row (expiredRow now row)

def Statement.picks (statement : Statement) (tables : JobTables) (queue : ResearchQueueName)
    (row : JobRow) : Bool :=
  match statement with
  | .insertJob _ _ => false
  | .selectJob _ => false
  | .claim claimed _ _ reading =>
    queue = claimed && claimCandidate (tables.table claimed) reading = some row
  | .renew renewed owner _ => queue = renewed && row.heldBy owner
  | .release released owner _ => queue = released && row.heldBy owner
  | .sweepCancel orphaned _ =>
    queue = .researchJobs && (orphaned.test row && row.cancelRequested)
  | .sweepFail swept orphaned maxAttempts _ =>
    queue = swept && (orphaned.test row && decide (maxAttempts ≤ row.attempts))
  | .sweepRequeue swept orphaned _ => queue = swept && orphaned.test row
  | .clearLease cleared jobId owner =>
    queue = cleared && decide (row.jobId = jobId ∧ row.leaseOwner = some owner)
  | .replace leaseOwner jobId _ _ =>
    queue = .researchJobs && replaceCondition leaseOwner jobId row
  | .expireJobs now =>
    queue = .researchJobs && (decide (row.expiresAt ≤ now) && !row.status.terminal)

/-- Every row is stored under its own job id. -/
def JobTables.Keyed (tables : JobTables) : Prop :=
  ∀ queue jobId row, (tables.table queue).get? jobId = some row → row.jobId = jobId

theorem updateWhere_row {condition : JobRow → Bool} {values : JobRow → JobRow} {jobId : Uuid}
    (hrow : (tables.table other).get? jobId = some row)
    (hpicks : statement.picks tables other row = (decide (other = queue) && condition row))
    (hchange : other = queue → condition row = true → RowChange other statement row (values row)) :
    ∃ next, ((tables.updateWhere queue condition values).table other).get? jobId = some next ∧
      ((statement.picks tables other row = false ∧ next = row) ∨
        (statement.picks tables other row = true ∧ RowChange other statement row next)) := by
  rw [get?_updateWhere, hrow, Option.map_some]
  by_cases h : other = queue ∧ condition row = true
  · rw [if_pos h]
    exact ⟨_, rfl, .inr ⟨by rw [hpicks]; simpa using h, hchange h.1 h.2⟩⟩
  · rw [if_neg h]
    refine ⟨_, rfl, .inl ⟨?_, rfl⟩⟩
    rw [hpicks]
    by_contra hpicked
    exact h (by simpa using hpicked)

section

variable (hkeyed : tables.Keyed) (statement : Statement) {jobId : Uuid}
include hkeyed

theorem exec_row (hrow : (tables.table queue).get? jobId = some row) :
    ∃ next, ((statement.exec tables).2.table queue).get? jobId = some next ∧
      ((statement.picks tables queue row = false ∧ next = row) ∨
        (statement.picks tables queue row = true ∧ RowChange queue statement row next)) := by
  have hid := hkeyed queue jobId row hrow
  cases statement with
  | insertJob inserted fresh =>
    refine ⟨row, ?_, .inl ⟨rfl, rfl⟩⟩
    simp only [Statement.exec]
    split
    · exact hrow
    next hfree =>
      by_cases h : queue = inserted
      · subst h
        have hne : jobId ≠ fresh.jobId := by
          intro he
          rw [← he, hrow] at hfree
          exact hfree rfl
        rw [table_withTable_self, get?_set_ne hne]
        exact hrow
      · rw [table_withTable_ne h]
        exact hrow
  | selectJob => exact ⟨row, hrow, .inl ⟨rfl, rfl⟩⟩
  | claim claimed =>
    simp only [Statement.exec, Statement.picks]
    split
    next hnone => exact ⟨row, hrow, .inl ⟨by simp [hnone], rfl⟩⟩
    next candidate hcandidate =>
      obtain ⟨hmem, hclaimable⟩ := claimCandidate_spec hcandidate
      obtain ⟨key, hkey⟩ := mem_values_iff.mp hmem
      have hcandidateId := hkeyed claimed key candidate hkey
      by_cases h : queue = claimed
      · subst h
        rw [table_withTable_self, get?_set]
        split
        next he =>
          -- the claimed row is this one
          rw [he, hcandidateId, hkey] at hrow
          cases hrow
          exact ⟨_, rfl, .inr ⟨by simp [hcandidate], .claims hclaimable⟩⟩
        next hne =>
          refine ⟨row, hrow, .inl ⟨?_, rfl⟩⟩
          have hother : candidate ≠ row := by
            intro he
            exact hne (hid.symm.trans (congrArg JobRow.jobId he.symm))
          simp [hcandidate, hother]
      · rw [table_withTable_ne h]
        exact ⟨row, hrow, .inl ⟨by simp [h], rfl⟩⟩
  | renew _ _ leaseExpiresAt =>
    refine updateWhere_row hrow rfl ?_
    rintro rfl hheld
    exact .renews hheld leaseExpiresAt
  | release _ _ updatedAt =>
    refine updateWhere_row hrow rfl ?_
    rintro rfl hheld
    exact .releases hheld updatedAt
  | sweepCancel _ updatedAt =>
    refine updateWhere_row hrow rfl ?_
    rintro rfl hmatched
    rw [Bool.and_eq_true] at hmatched
    exact .cancels hmatched.1 hmatched.2 updatedAt
  | sweepFail _ _ _ updatedAt =>
    refine updateWhere_row hrow rfl ?_
    rintro rfl hmatched
    rw [Bool.and_eq_true, decide_eq_true_eq] at hmatched
    exact .fails hmatched.1 hmatched.2 updatedAt
  | sweepRequeue _ _ updatedAt =>
    refine updateWhere_row hrow rfl ?_
    rintro rfl hmatched
    exact .requeues hmatched updatedAt
  | clearLease =>
    refine updateWhere_row hrow rfl ?_
    rintro rfl hmatched
    rw [decide_eq_true_eq] at hmatched
    obtain ⟨rfl, howner⟩ := hmatched
    exact .clears howner
  | replace _ _ values now =>
    refine updateWhere_row hrow rfl ?_
    rintro rfl hmatched
    rw [replaceCondition, Bool.and_eq_true, decide_eq_true_eq] at hmatched
    obtain ⟨rfl, hfence⟩ := hmatched
    exact .replaces hfence values now
  | expireJobs now =>
    refine updateWhere_row hrow rfl ?_
    rintro rfl hmatched
    rw [Bool.and_eq_true] at hmatched
    exact .expires (by simpa using hmatched.2) now

theorem exec_fresh {next : JobRow} (hnone : (tables.table queue).get? jobId = none)
    (hnext : ((statement.exec tables).2.table queue).get? jobId = some next) :
    statement = .insertJob queue next ∧ next.jobId = jobId := by
  have hupdate : ∀ {changed : ResearchQueueName} {condition : JobRow → Bool}
      {values : JobRow → JobRow},
      ((tables.updateWhere changed condition values).table queue).get? jobId ≠ some next := by
    intro changed condition values
    rw [get?_updateWhere, hnone]
    simp
  cases statement with
  | insertJob inserted =>
    simp only [Statement.exec] at hnext
    split at hnext
    · rw [hnone] at hnext
      cases hnext
    · by_cases h : queue = inserted
      · subst h
        rw [table_withTable_self, get?_set] at hnext
        split at hnext
        next he =>
          cases hnext
          exact ⟨rfl, he.symm⟩
        · rw [hnone] at hnext
          cases hnext
      · rw [table_withTable_ne h, hnone] at hnext
        cases hnext
  | selectJob read =>
    rw [show ((Statement.selectJob read).exec tables).2 = tables from rfl, hnone] at hnext
    cases hnext
  | claim claimed =>
    simp only [Statement.exec] at hnext
    split at hnext
    · rw [hnone] at hnext
      cases hnext
    next candidate hcandidate =>
      obtain ⟨key, hkey⟩ := mem_values_iff.mp (claimCandidate_spec hcandidate).1
      have hcandidateId := hkeyed claimed key candidate hkey
      by_cases h : queue = claimed
      · subst h
        rw [table_withTable_self, get?_set] at hnext
        split at hnext
        next he =>
          rw [he, hcandidateId, hkey] at hnone
          cases hnone
        · rw [hnone] at hnext
          cases hnext
      · rw [table_withTable_ne h, hnone] at hnext
        cases hnext
  | _ => exact absurd hnext hupdate

end

theorem RowChange.jobId {next : JobRow} (h : RowChange queue statement row next) :
    next.jobId = row.jobId := by
  cases h <;> rfl

theorem exec_keyed (hkeyed : tables.Keyed) (statement : Statement) :
    (statement.exec tables).2.Keyed := by
  intro queue jobId next hnext
  cases hrow : (tables.table queue).get? jobId with
  | none => exact (exec_fresh hkeyed statement hrow hnext).2
  | some row =>
    obtain ⟨after, hafter, hchange⟩ := exec_row hkeyed statement hrow
    rw [hnext] at hafter
    cases hafter
    rcases hchange with ⟨-, rfl⟩ | ⟨-, hchange⟩
    · exact hkeyed queue jobId next hrow
    · exact hchange.jobId.trans (hkeyed queue jobId row hrow)

end

/-! ## What an event does -/

variable {world : World} {event : Event}

theorem apply_tables (world : World) (event : Event) :
    (world.apply event).tables =
      match world.statement event with
      | none => world.tables
      | some statement => (statement.exec world.tables).2 := by
  cases event with
  | call => rfl
  | advance =>
    simp only [World.apply, World.statement]
    split <;> rfl

theorem apply_keyed (h : world.tables.Keyed) : (world.apply event).tables.Keyed := by
  rw [apply_tables]
  split
  · exact h
  next statement _ => exact exec_keyed h statement

theorem initial_keyed : World.initial.tables.Keyed := by
  intro queue jobId row hrow
  cases queue <;> exact absurd hrow (by simp [World.initial, JobTables.table])

end Thytrader.Research
