import Thytrader.Research.Jobs

/-!
# A finished job stays finished

Every statement but one leaves the status of an ended job alone: claims take queued
rows, fenced writes, releases and sweeps take running ones, the expiry takes both.
The exception is the operator's cancel, which reads the row and then writes it
without a condition on its status. A run is free of that overwrite exactly when
every such write finds its job still live, or already ended the way it writes it
(`finished_job_stays_finished`).
-/

namespace Thytrader.Research

open Lib World

/-- The only statement that can move an ended job is an unfenced replacement. -/
theorem RowChange.status_of_terminal {queue : ResearchQueueName} {statement : Statement}
    {row next : JobRow} (h : RowChange queue statement row next)
    (hended : row.status.terminal = true) :
    next.status = row.status ∨ ∃ values now,
      statement = .replace none row.jobId values now ∧ next.status = values.status := by
  have hqueued : row.status ≠ .queued := by
    intro he
    rw [he] at hended
    exact absurd hended (by decide)
  have hrunning : row.status ≠ .running := by
    intro he
    rw [he] at hended
    exact absurd hended (by decide)
  have hheld : ∀ owner, row.heldBy owner ≠ true := by
    intro owner he
    rw [JobRow.heldBy, Bool.and_eq_true, decide_eq_true_eq, decide_eq_true_eq] at he
    exact hrunning he.2
  have hlive : ∀ orphaned : Orphaned, orphaned.test row ≠ true := by
    intro orphaned he
    cases orphaned <;>
    · rw [Orphaned.test, Bool.and_eq_true, decide_eq_true_eq] at he
      exact hrunning he.1
  cases h with
  | claims hclaimable =>
    simp only [JobRow.claimable, Bool.and_eq_true, decide_eq_true_eq] at hclaimable
    exact absurd hclaimable.1.1 hqueued
  | renews | clears => exact .inl rfl
  | releases howned => exact absurd howned (hheld _)
  | cancels horphaned => exact absurd horphaned (hlive _)
  | fails horphaned => exact absurd horphaned (hlive _)
  | requeues horphaned => exact absurd horphaned (hlive _)
  | @replaces leaseOwner _ hfence values now =>
    cases leaseOwner with
    | none => exact .inr ⟨values, now, rfl, rfl⟩
    | some owner => exact absurd hfence (hheld owner)
  | expires hnot =>
    rw [hended] at hnot
    exact absurd hnot (by decide)

/-- When a cancel's write runs, its job has not ended, or has ended as the write says. -/
def CancelLands (world : World) (event : Event) : Prop :=
  ∀ jobId values now, world.statement event = some (.replace none jobId values now) →
    ∀ row, world.tables.researchJobs.get? jobId = some row → row.status.terminal = true →
      row.status = values.status

/-- One step of an interleaving in which no cancel overwrites an ended job. -/
def liveStep (world : World) (event : Event) (next : World) : Prop :=
  CancelLands world event ∧ next = world.apply event

theorem liveStep_status {world next : World} {event : Event} (hkeyed : world.tables.Keyed)
    (hstep : liveStep world event next) {jobId : Uuid} {row : JobRow}
    (hrow : world.tables.researchJobs.get? jobId = some row) (hended : row.status.terminal = true) :
    ∃ after, next.tables.researchJobs.get? jobId = some after ∧ after.status = row.status := by
  obtain ⟨hlands, rfl⟩ := hstep
  rw [apply_tables]
  cases hstatement : world.statement event with
  | none => exact ⟨row, hrow, rfl⟩
  | some statement =>
    have hread : (world.tables.table .researchJobs).get? jobId = some row := hrow
    have hid := hkeyed .researchJobs jobId row hread
    obtain ⟨after, hafter, hchange⟩ := exec_row hkeyed statement hread
    refine ⟨after, hafter, ?_⟩
    rcases hchange with ⟨-, rfl⟩ | ⟨-, hchange⟩
    · rfl
    · rcases hchange.status_of_terminal hended with hsame | ⟨values, now, rfl, hwritten⟩
      · exact hsame
      · rw [hwritten, hlands row.jobId values now hstatement row (hid ▸ hrow) hended]

/-- In every interleaving of the stores' methods, statement by statement, in which every cancel's
write finds its job live or already ended the way it writes it: a job that has ended keeps its
status in every later state. -/
theorem finished_job_stays_finished {world final : World} {before after : List Event}
    (hrun : Run liveStep initial before world) (hrest : Run liveStep world after final)
    {jobId : Uuid} {row : JobRow} (hrow : world.tables.researchJobs.get? jobId = some row)
    (hended : row.status.terminal = true) :
    ∃ later, final.tables.researchJobs.get? jobId = some later ∧ later.status = row.status := by
  have hkeyed : world.tables.Keyed := by
    refine Run.invariant (fun world => world.tables.Keyed) ?_ hrun initial_keyed
    rintro state event next hkeyed ⟨-, rfl⟩
    exact apply_keyed hkeyed
  -- the run keeps the job ids in place and the ended status of this one
  have hinv := Run.invariant (fun state : World => state.tables.Keyed ∧ ∃ later,
    state.tables.researchJobs.get? jobId = some later ∧ later.status = row.status) ?_ hrest
    ⟨hkeyed, row, hrow, rfl⟩
  · exact hinv.2
  · rintro state event next ⟨hstate, later, hlater, hstatus⟩ hstep
    have hsame := liveStep_status hstate hstep hlater (hstatus ▸ hended)
    obtain ⟨written, hwritten, hkept⟩ := hsame
    obtain ⟨-, rfl⟩ := hstep
    exact ⟨apply_keyed hstate, written, hwritten, hkept.trans hstatus⟩

/-- One backtest, queued at instant zero. -/
def sampleCreate : Event := .call (.createResearch 7 .backtest "plan" 1 "snapshot" 0)

/-- A worker's claim readings, one second after the sample job was queued. -/
def sampleReading : ResearchQueueName → ClaimReading :=
  fun _ => { now := 1000000, updatedAt := 1000000 }

def cancelLands (world : World) (event : Event) : Bool :=
  match world.statement event with
  | some (.replace none jobId values _) =>
    (world.tables.researchJobs.get? jobId).all
      (fun row => !row.status.terminal || row.status = values.status)
  | _ => true

theorem liveStep_of_cancelLands (world : World) (event : Event)
    (h : cancelLands world event = true) : liveStep world event (world.apply event) := by
  refine ⟨fun jobId values now hstatement row hrow hended => ?_, rfl⟩
  simpa [cancelLands, hstatement, hrow, hended] using h

/-- The job is created, claimed by a worker, asked to stop while it runs, and completed. -/
def sampleCompletion : List Event :=
  [sampleCreate, .advance 0, .advance 0,
    .call (.claim "host/1/0/a" 30000000 sampleReading researchQueues), .advance 1,
    .call (.cancel 7 1500000), .advance 2, .advance 2,
    .call (.write "host/1/0/a" 7 (.markCompletedBacktest "run" "result") 2000000), .advance 3,
    .advance 3]

/-- A second cancel and a sweep that come late. -/
def lateCalls : List Event :=
  [.call (.cancel 7 5000000), .advance 4, .advance 4,
    .call (.requeueExpired 3 90000000 90000000 researchQueues), .advance 5, .advance 5, .advance 5]

theorem finished_job_stays_finished_completed :
    ((sampleCompletion.foldl apply initial).tables.researchJobs.get? 7).map (·.status) =
      some .completed ∧
    ∃ later, ((lateCalls.foldl apply (sampleCompletion.foldl apply initial)).tables.researchJobs.get?
      7) = some later ∧ later.status = .completed := by
  have hstatus : ((sampleCompletion.foldl apply initial).tables.researchJobs.get? 7).map
      (·.status) = some .completed := by decide +kernel
  obtain ⟨row, hrow, hcompleted⟩ := Option.map_eq_some_iff.mp hstatus
  refine ⟨hstatus, ?_⟩
  obtain ⟨later, hlater, hkept⟩ := finished_job_stays_finished
    (.of_along liveStep_of_cancelLands (show Along _ _ _ sampleCompletion = true by decide +kernel))
    (.of_along liveStep_of_cancelLands (show Along _ _ _ lateCalls = true by decide +kernel)) hrow
    (by rw [hcompleted]; rfl)
  exact ⟨later, hlater, hkept.trans hcompleted⟩

def cancelRace : List Event :=
  [sampleCreate, .advance 0, .advance 0,
    .call (.cancel 7 3000000), .advance 1,
    .call (.claim "host/1/0/a" 30000000 sampleReading researchQueues), .advance 2,
    .call (.write "host/1/0/a" 7 (.markCompletedBacktest "run" "result") 2000000), .advance 3]

/-- The cancel's read saw the job queued; it is completed when the write lands and makes it
cancelled. -/
theorem completed_job_cancelled :
    Run (fun world event next => next = apply world event) initial cancelRace
      (cancelRace.foldl apply initial) ∧
    ((cancelRace.foldl apply initial).tables.researchJobs.get? 7).map (·.status) =
      some .completed ∧
    (((cancelRace.foldl apply initial).apply (.advance 1)).tables.researchJobs.get?
      7).map (·.status) = some .cancelled := by
  exact ⟨.of_along (fun _ _ _ => by rfl) (show Along (fun _ _ => true) _ _ _ = true by rfl),
    by decide +kernel, by decide +kernel⟩

end Thytrader.Research
