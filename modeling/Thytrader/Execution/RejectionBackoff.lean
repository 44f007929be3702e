import Thytrader.Execution.RejectedSubmit

/-!
# Rejected protection is not re-sent in a storm

One live position, a venue that rejects every protective submit for the same reason, and cycles that
keep trying. Two facts about the store carry it: the newest protective order is the last submit,
with the run of identical rejections behind it, and a run of five has a rejection detail unless the
operator resumed since.

The back-off holds in every run, the latch while nobody else writes over a rejection detail
(`rejected_protection_backs_off`); the back-off time exists for at most 41 rejections, as a minute
doubled 41 times is more than a `timedelta` holds.
-/

namespace Thytrader.Execution

open Trading Lib List ProtectedBook MemoryStore
open MarketData (minuteLength)

variable {between log : List StormEntry} {createdAt settledAt : Time}

/-! ## Runs -/

/-- What an observer sees: a submit, sent between its two clock readings, or a resume that took. -/
inductive StormEntry where
  | sent (createdAt settledAt : Time)
  | resumed
  deriving DecidableEq

/-- The store, the last clock reading, and what was seen, newest first. -/
structure StormDesk where
  store : MemoryStore
  clock : Time
  log : List StormEntry

/-- A cycle of the worker, another writer's row, or the operator. -/
inductive StormEvent where
  | cycle (product : ProtectedProduct) (candleStartsAt : Time) (fence : Option (Uuid × String))
      (draws : CycleDraws) (venueOrderId : String)
  | write (row : Deployment)
  | resume (refusal : Option Failure) (now : Time)

/-- The submits among the entries. -/
def sentCount (log : List StormEntry) : Nat :=
  (log.filter (fun entry => entry ≠ .resumed)).length

namespace ProtectedBook

variable (book : ProtectedBook)

def apply (desk : StormDesk) : StormEvent → StormDesk
  | .cycle product candleStartsAt fence draws venueOrderId =>
    match desk.store.getDeployment book.deploymentId with
    | .error _ => desk
    | .ok snapshot =>
      let outcome := submitLiveBracket desk.store snapshot book.position product candleStartsAt fence
        draws (rejectedAnswer venueOrderId book.reason)
      { store := outcome.store
        clock := draws.pausedAt
        log := (outcome.sent.map (fun intent =>
          StormEntry.sent intent.createdAt draws.settledAt)).toList ++ desk.log }
  | .write row => { desk with store := (desk.store.saveDeployment row).2 }
  | .resume refusal now =>
    let (resumed, next) := resumeDeployment desk.store book.deploymentId refusal now
    { desk with
      store := next
      log := if resumed = .ok true then .resumed :: desk.log else desk.log }

/-- What host and callers promise: clocks that do not go back, new identities, the position's own
product, rows of the book. -/
def Promised (desk : StormDesk) : StormEvent → Prop
  | .cycle product _ _ draws _ =>
    (desk.clock ≤ draws.checkedAt ∧ draws.checkedAt ≤ draws.createdAt ∧
      draws.createdAt ≤ draws.settledAt ∧ draws.settledAt ≤ draws.pausedAt) ∧
    FreshDraws desk.store draws ∧ product.productId = book.position.productId
  | .write row => row.id = book.deploymentId
  | .resume _ _ => True

/-- Nobody but the operator writes over a rejection detail of five or more rejections. -/
def KeepsLatch (desk : StormDesk) : StormEvent → Prop
  | .write row =>
    maxIdenticalRejections ≤ book.standing desk.store →
      isRejectionDetail (book.detail desk.store) = true →
      isRejectionDetail row.mismatchDetail = true
  | _ => True

/-- One step; in a `quiet` run every step keeps the latch. -/
def step (quiet : Prop) (desk : StormDesk) (event : StormEvent) (next : StormDesk) : Prop :=
  book.Promised desk event ∧ (quiet → book.KeepsLatch desk event) ∧ next = book.apply desk event

/-- A run starts with some identical rejections, protective orders older than its clock, and nothing
seen. -/
structure Start (standing : Nat) (desk : StormDesk) : Prop where
  row : ∃ row, HasRow desk.store book.deploymentId row
  aged : ∀ stored ∈ book.newest desk.store, stored.createdAt < desk.clock
  counted : book.standing desk.store = standing
  unseen : desk.log = []

end ProtectedBook

/-- A submit created at `createdAt` follows the one settled at `settledAt`; `older` was seen before
the earlier one. -/
def ConsecutiveSubmits (log : List StormEntry) (createdAt : Time) (between : List StormEntry)
    (settledAt : Time) (older : List StormEntry) : Prop :=
  (∃ newer settled created, log = newer ++ .sent createdAt settled ::
    (between ++ .sent created settledAt :: older)) ∧ ∀ entry ∈ between, entry = .resumed

/-- Two consecutive submits are the back-off of the first one's rejections apart. -/
def BacksOff (standing : Nat) (log : List StormEntry) : Prop :=
  ∀ createdAt between settledAt older, ConsecutiveSubmits log createdAt between settledAt older →
    settledAt + backoff (standing + sentCount older + 1) ≤ createdAt

def AwaitsResume (standing : Nat) (log : List StormEntry) : Prop :=
  ∀ createdAt between settledAt older, ConsecutiveSubmits log createdAt between settledAt older →
    maxIdenticalRejections ≤ standing + sentCount older + 1 → .resumed ∈ between

/-! ## Reading the log -/

theorem sentCount_append_sent (h : ∀ entry ∈ between, entry = .resumed) (createdAt settledAt : Time)
    (older : List StormEntry) :
    sentCount (between ++ .sent createdAt settledAt :: older) = sentCount older + 1 := by
  unfold sentCount
  have hnone : between.filter (fun entry => entry ≠ .resumed) = [] := by
    rw [filter_eq_nil_iff]
    intro entry hentry
    simp [h entry hentry]
  rw [filter_append, hnone]
  simp

theorem sentCount_of_resumed (h : ∀ entry ∈ log, entry = .resumed) : sentCount log = 0 := by
  unfold sentCount
  rw [length_eq_zero_iff, filter_eq_nil_iff]
  intro entry hentry
  simp [h entry hentry]

/-- The newest submit of a log is found in one way. -/
theorem newest_submit_unique {between' older older' : List StormEntry}
    {createdAt' settledAt' : Time} (hbetween : ∀ entry ∈ between, entry = .resumed)
    (hbetween' : ∀ entry ∈ between', entry = .resumed)
    (h : between ++ .sent createdAt settledAt :: older = between' ++ .sent createdAt' settledAt'
      :: older') : between = between' ∧ settledAt = settledAt' ∧ older = older' := by
  induction between generalizing between' with
  | nil =>
    cases between' with
    | nil =>
      obtain ⟨hsent, rfl⟩ := List.cons.inj h
      obtain ⟨-, rfl⟩ := StormEntry.sent.inj hsent
      exact ⟨rfl, rfl, rfl⟩
    | cons =>
      obtain ⟨rfl, -⟩ := List.cons.inj h
      exact absurd (hbetween' _ (mem_cons_self ..)) (by simp)
  | cons _ _ ih =>
    cases between' with
    | nil =>
      obtain ⟨rfl, -⟩ := List.cons.inj h
      exact absurd (hbetween _ (mem_cons_self ..)) (by simp)
    | cons =>
      obtain ⟨rfl, hrest⟩ := List.cons.inj h
      obtain ⟨rfl, hsettled, holder⟩ := ih (fun e he => hbetween e (by simp [he]))
        (fun e he => hbetween' e (by simp [he])) hrest
      exact ⟨rfl, hsettled, holder⟩

/-- A resume adds no pair of submits. -/
theorem consecutive_resumed {older : List StormEntry}
    (h : ConsecutiveSubmits (.resumed :: log) createdAt between settledAt older) :
    ConsecutiveSubmits log createdAt between settledAt older := by
  obtain ⟨⟨newer, settled, created, hlog⟩, hbetween⟩ := h
  cases newer with
  | nil => exact absurd (List.cons.inj hlog).1 (by simp)
  | cons _ newer => exact ⟨⟨newer, settled, created, (List.cons.inj hlog).2⟩, hbetween⟩

/-- A submit adds the pair it makes with the newest one before it. -/
theorem consecutive_sent {older : List StormEntry} {sentAt done : Time}
    (h : ConsecutiveSubmits (.sent sentAt done :: log) createdAt between settledAt older) :
    ConsecutiveSubmits log createdAt between settledAt older ∨
      (createdAt = sentAt ∧ (∀ entry ∈ between, entry = .resumed) ∧
        ∃ created, log = between ++ .sent created settledAt :: older) := by
  obtain ⟨⟨newer, settled, created, hlog⟩, hbetween⟩ := h
  cases newer with
  | nil =>
    obtain ⟨hsent, hrest⟩ := List.cons.inj hlog
    exact .inr ⟨(StormEntry.sent.inj hsent).1.symm, hbetween, created, hrest⟩
  | cons _ newer =>
    exact .inl ⟨⟨newer, settled, created, (List.cons.inj hlog).2⟩, hbetween⟩

/-! ## The invariant -/

namespace ProtectedBook

/-- What the store shows of the submits seen so far. -/
inductive Watching (book : ProtectedBook) (quiet : Prop) (standing : Nat) (desk : StormDesk) :
    Prop where
  | unsent (hlog : ∀ entry ∈ desk.log, entry = .resumed)
      (haged : ∀ stored ∈ book.newest desk.store, stored.createdAt < desk.clock)
      (hcounted : book.standing desk.store = standing)
  | sentLast (between older : List StormEntry) (createdAt settledAt : Time) (head : Order)
      (rest : List Order)
      (hlog : desk.log = between ++ .sent createdAt settledAt :: older)
      (hbetween : ∀ entry ∈ between, entry = .resumed)
      (hnewest : book.newest desk.store = head :: rest) (hidentical : book.Identical head)
      (hsettled : head.updatedAt = settledAt)
      (haged : ∀ stored ∈ book.newest desk.store, stored.createdAt ≤ settledAt)
      (hcounted : book.standing desk.store = standing + sentCount older + 1)
      (hlatch : quiet → maxIdenticalRejections ≤ standing + sentCount older + 1 → between = [] →
        isRejectionDetail (book.detail desk.store) = true)

/-- The invariant of a run. -/
structure StormInv (book : ProtectedBook) (quiet : Prop) (standing : Nat) (desk : StormDesk) :
    Prop where
  row : ∃ row, HasRow desk.store book.deploymentId row
  watching : book.Watching quiet standing desk
  backsOff : BacksOff standing desk.log
  awaits : quiet → AwaitsResume standing desk.log

variable {book : ProtectedBook} {quiet : Prop} {standing : Nat} {desk : StormDesk}

theorem StormInv.of_start (h : book.Start standing desk) : book.StormInv quiet standing desk where
  row := h.row
  watching := .unsent (by simp [h.unseen]) h.aged h.counted
  backsOff := by
    intro createdAt between settledAt older hpair
    obtain ⟨⟨newer, settled, created, hlog⟩, -⟩ := hpair
    exact absurd (h.unseen.symm.trans hlog) (by simp)
  awaits := by
    intro _ createdAt between settledAt older hpair
    obtain ⟨⟨newer, settled, created, hlog⟩, -⟩ := hpair
    exact absurd (h.unseen.symm.trans hlog) (by simp)

variable {next store : MemoryStore} {snapshot : DeploymentSnapshot} {draws : CycleDraws}

theorem RowWrite.standing_eq {detail : Option String} (h : book.RowWrite store next detail) :
    book.standing next = book.standing store := by
  unfold ProtectedBook.standing
  rw [h.newest]

theorem Watching.of_rowWrite (h : book.Watching quiet standing desk) {detail : Option String}
    (hwrite : book.RowWrite desk.store next detail) {clock : Time} (hclock : desk.clock ≤ clock)
    (hkeeps : quiet → maxIdenticalRejections ≤ book.standing desk.store →
      isRejectionDetail (book.detail desk.store) = true → isRejectionDetail detail = true) :
    book.Watching quiet standing { desk with store := next, clock } := by
  have hnewest := hwrite.newest
  have hstanding := hwrite.standing_eq
  cases h with
  | unsent hlog haged hcounted =>
    refine .unsent hlog ?_ (hstanding.trans hcounted)
    intro stored hstored
    exact (haged stored (hnewest ▸ hstored)).trans_le hclock
  | sentLast between older createdAt settledAt head rest hlog hbetween hhead hidentical hsettled
      haged hcounted hlatch =>
    refine .sentLast between older createdAt settledAt head rest hlog hbetween
      (hnewest.trans hhead) hidentical hsettled ?_ (hstanding.trans hcounted) ?_
    · intro stored hstored
      exact haged stored (hnewest ▸ hstored)
    · intro hquiet hmany hempty
      rw [hwrite.detail_eq]
      exact hkeeps hquiet (hcounted ▸ hmany) (hlatch hquiet hmany hempty)

theorem exists_head_of_standing (h : 0 < book.standing store) :
    ∃ head rest, book.newest store = head :: rest ∧ book.Identical head := by
  unfold standing streak at h
  cases hnewest : book.newest store with
  | nil =>
    rw [hnewest] at h
    cases h
  | cons head rest =>
    refine ⟨head, rest, rfl, ?_⟩
    by_contra hother
    rw [hnewest, takeWhile_cons_of_neg hother] at h
    cases h

theorem unlatched_head {now : Time} {head : Order} {rest : List Order}
    (hread : desk.store.getDeployment book.deploymentId = .ok snapshot)
    (hnewest : book.newest desk.store = head :: rest) (hidentical : book.Identical head)
    (hopen : book.Unlatched snapshot now) :
    head.updatedAt + backoff (book.standing desk.store) ≤ now ∧
      (maxIdenticalRejections ≤ book.standing desk.store →
        isRejectionDetail (book.detail desk.store) = false) := by
  have hrejection := bracketRejection_of_newest hread hnewest hidentical
  unfold Unlatched heldBack at hopen
  rw [hrejection] at hopen
  have hfacts := of_not_latched hopen
  have hdetail : book.detail desk.store = snapshot.deployment.mismatchDetail := by
    unfold detail
    rw [(getDeployment_ok hread).1]
    rfl
  rw [hdetail]
  exact hfacts

theorem Watching.older (h : book.Watching quiet standing desk)
    (hread : desk.store.getDeployment book.deploymentId = .ok snapshot)
    (hclock : desk.clock ≤ draws.checkedAt) (hcreated : draws.checkedAt ≤ draws.createdAt)
    (hopen : book.Unlatched snapshot draws.checkedAt) :
    ∀ stored ∈ book.newest desk.store, stored.createdAt < draws.createdAt := by
  intro stored hstored
  cases h with
  | unsent _ haged =>
    exact (haged stored hstored).trans_le (hclock.trans hcreated)
  | sentLast between older createdAt settledAt head rest hlog hbetween hhead hidentical hsettled
      haged hcounted hlatch =>
    obtain ⟨hwaited, -⟩ := unlatched_head hread hhead hidentical hopen
    have hbefore : stored.createdAt ≤ head.updatedAt := hsettled ▸ haged stored hstored
    have hpos := backoff_pos (book.standing desk.store)
    calc stored.createdAt ≤ head.updatedAt := hbefore
      _ < head.updatedAt + backoff (book.standing desk.store) := lt_add_of_pos_right _ hpos
      _ ≤ draws.checkedAt := hwaited
      _ ≤ draws.createdAt := hcreated

/-- A cycle that sends: the new submit is what is watched from now on. -/
theorem StormInv.of_sent (h : book.StormInv quiet standing desk)
    (hread : desk.store.getDeployment book.deploymentId = .ok snapshot)
    (hclock : desk.clock ≤ draws.checkedAt) (hcreated : draws.checkedAt ≤ draws.createdAt)
    (hsettledAt : draws.createdAt ≤ draws.settledAt)
    (hopen : book.Unlatched snapshot draws.checkedAt) {order : Order}
    (hrow : ∃ row, HasRow next book.deploymentId row)
    (hnewest : book.newest next = order :: book.newest desk.store)
    (hidentical : book.Identical order) (hat : order.createdAt = draws.createdAt)
    (hsettled : order.updatedAt = draws.settledAt)
    (hdetail : isRejectionDetail (book.detail next) = true) (clock : Time) :
    book.StormInv quiet standing
      { store := next, clock, log := .sent draws.createdAt draws.settledAt :: desk.log } := by
  have hcount : book.standing next = book.standing desk.store + 1 := by
    unfold ProtectedBook.standing
    rw [hnewest, streak_cons hidentical]
  have hbefore : book.standing desk.store = standing + sentCount desk.log := by
    cases h.watching with
    | unsent hlog _ hcounted => rw [sentCount_of_resumed hlog, hcounted, Nat.add_zero]
    | sentLast between older createdAt settledAt head rest hlog hbetween hhead hsame hdone
        haged hcounted hlatch =>
      rw [hcounted, hlog, sentCount_append_sent hbetween, Nat.add_assoc]
  -- the cycle was not held back by the submit before it
  have hfree {between older : List StormEntry} {created settledAt : Time}
      (hresumed : ∀ entry ∈ between, entry = .resumed)
      (hlog : desk.log = between ++ .sent created settledAt :: older) :
      settledAt + backoff (standing + sentCount older + 1) ≤ draws.checkedAt ∧
        (quiet → maxIdenticalRejections ≤ standing + sentCount older + 1 → between ≠ []) := by
    cases h.watching with
    | unsent hnone => cases hnone (.sent created settledAt) (by rw [hlog]; simp)
    | sentLast between' older' created' settled' head rest hlast hbetween hhead hsame hdone haged
        hcounted hlatch =>
      obtain ⟨rfl, rfl, rfl⟩ := newest_submit_unique hbetween hresumed (hlast.symm.trans hlog)
      obtain ⟨hwaited, hcleared⟩ := unlatched_head hread hhead hsame hopen
      rw [hdone, hcounted] at hwaited
      refine ⟨hwaited, fun hquiet hmany hnil => ?_⟩
      -- Unlatched at five, so the detail is gone, so somebody resumed.
      exact absurd (hcleared (hcounted ▸ hmany)) (by simp [hlatch hquiet hmany hnil])
  refine ⟨hrow, .sentLast [] desk.log draws.createdAt draws.settledAt order (book.newest desk.store)
    rfl (by simp) hnewest hidentical hsettled ?_ (by rw [hcount, hbefore]) (fun _ _ _ => hdetail),
    ?_, ?_⟩
  · intro stored hstored
    have hmem : stored ∈ order :: book.newest desk.store := hnewest ▸ hstored
    obtain rfl | hold := mem_cons.mp hmem
    · rw [hat]
      exact hsettledAt
    · exact (h.watching.older hread hclock hcreated hopen stored hold).le.trans hsettledAt
  · intro createdAt between settledAt older hpair
    obtain hpair | ⟨rfl, hresumed, created, hlog⟩ := consecutive_sent hpair
    · exact h.backsOff _ _ _ _ hpair
    · exact (hfree hresumed hlog).1.trans hcreated
  · intro hquiet createdAt between settledAt older hpair hmany
    obtain hpair | ⟨rfl, hresumed, created, hlog⟩ := consecutive_sent hpair
    · exact h.awaits hquiet _ _ _ _ hpair hmany
    · obtain ⟨entry, rest, rfl⟩ := exists_cons_of_ne_nil ((hfree hresumed hlog).2 hquiet hmany)
      rw [hresumed entry (by simp)]
      simp

theorem StormInv.cycle (h : book.StormInv quiet standing desk) (product : ProtectedProduct)
    (candleStartsAt : Time) (fence : Option (Uuid × String)) (draws : CycleDraws)
    (venueOrderId : String)
    (hpromised : book.Promised desk (.cycle product candleStartsAt fence draws venueOrderId)) :
    book.StormInv quiet standing
      (book.apply desk (.cycle product candleStartsAt fence draws venueOrderId)) := by
  obtain ⟨⟨hclock, hcreated, hsettled, hpaused⟩, hfresh, hproduct⟩ := hpromised
  obtain ⟨row, hrow⟩ := h.row
  obtain ⟨snapshot, hread, hsnapshot⟩ := getDeployment_of_row hrow.1
  have hstored : HasRow desk.store book.deploymentId snapshot.deployment := hsnapshot ▸ hrow
  have heffect := submitLiveBracket_effect hstored hfresh hproduct
    (h.watching.older hread hclock hcreated) candleStartsAt fence venueOrderId
  unfold apply
  rw [hread]
  dsimp only
  generalize submitLiveBracket desk.store snapshot book.position product candleStartsAt fence draws
    (rejectedAnswer venueOrderId book.reason) = outcome at heffect
  cases heffect with
  | held _ hsent hwrite hdetail =>
    rw [hsent]
    have hlater : desk.clock ≤ draws.pausedAt :=
      hclock.trans (hcreated.trans (hsettled.trans hpaused))
    obtain ⟨next, hnext, -⟩ := hwrite.row
    refine ⟨⟨next, hnext⟩, h.watching.of_rowWrite hwrite hlater ?_, h.backsOff, h.awaits⟩
    intro _ hmany hstanding
    obtain rfl | hnew | hopen := hdetail
    · exact hstanding
    · exact hnew
    · -- An unlatched cycle with five standing has no rejection detail to lose.
      obtain ⟨head, rest, hhead, hsame⟩ := exists_head_of_standing
        (lt_of_lt_of_le (by decide) hmany)
      obtain ⟨-, hcleared⟩ := unlatched_head hread hhead hsame hopen
      exact absurd (hcleared hmany) (by simp [hstanding])
  | sent _ _ hsent hintent hopen hnextRow hnewest hidentical hat hdone hdetail =>
    rw [hsent, Option.map_some, Option.toList_some, singleton_append, hintent]
    exact h.of_sent hread hclock hcreated hsettled hopen hnextRow hnewest hidentical hat hdone hdetail
      draws.pausedAt

/-- What a resume can do: nothing, or clear the detail and be seen. -/
theorem resumeDeployment_effect {row : Deployment} (hrow : HasRow store book.deploymentId row)
    (refusal : Option Failure) (now : Time) :
    ((resumeDeployment store book.deploymentId refusal now).1 ≠ .ok true ∧
      (resumeDeployment store book.deploymentId refusal now).2 = store) ∨
    ((resumeDeployment store book.deploymentId refusal now).1 = .ok true ∧
      book.RowWrite store (resumeDeployment store book.deploymentId refusal now).2 none) := by
  obtain ⟨snapshot, hread, hsnapshot⟩ := getDeployment_of_row hrow.1
  unfold resumeDeployment
  rw [hread]
  dsimp only
  split
  · exact .inl ⟨by simp, rfl⟩
  · split
    · exact .inl ⟨by simp, rfl⟩
    · cases refusal with
      | some => exact .inl ⟨by simp, rfl⟩
      | none =>
        obtain ⟨saved, hsaved, hwrite⟩ := rowWrite_saveDeployment
          (withRuntime snapshot.deployment now
            { status := some .running, lifecycleCommand := some .none, clearMismatch := true })
          (hsnapshot ▸ hrow : HasRow store book.deploymentId snapshot.deployment)
          (hsnapshot ▸ hrow.2 : snapshot.deployment.id = book.deploymentId) (.inr rfl)
        generalize store.saveDeployment (withRuntime snapshot.deployment now
          { status := some .running, lifecycleCommand := some .none, clearMismatch := true })
          (some snapshot.deployment.revision) = outcome at hsaved hwrite
        obtain ⟨result, next⟩ := outcome
        obtain rfl : result = .ok saved := hsaved
        exact .inr ⟨rfl, hwrite⟩

/-- A resume that took opens the latch: it stands in the log. -/
theorem StormInv.of_resumed (h : book.StormInv quiet standing desk)
    (hwrite : book.RowWrite desk.store next none) :
    book.StormInv quiet standing { desk with store := next, log := .resumed :: desk.log } := by
  have hnewest := hwrite.newest
  have hstanding := hwrite.standing_eq
  obtain ⟨row, hrow, -⟩ := hwrite.row
  refine ⟨⟨row, hrow⟩, ?_, fun _ _ _ _ hpair => h.backsOff _ _ _ _ (consecutive_resumed hpair),
    fun hquiet _ _ _ _ hpair => h.awaits hquiet _ _ _ _ (consecutive_resumed hpair)⟩
  cases h.watching with
  | unsent hlog haged hcounted =>
    refine .unsent ?_ (fun stored hstored => haged stored (hnewest ▸ hstored))
      (hstanding.trans hcounted)
    intro entry hentry
    obtain rfl | hold := mem_cons.mp hentry
    · rfl
    · exact hlog entry hold
  | sentLast between older createdAt settledAt head rest hlog hbetween hhead hidentical hsettled
      haged hcounted hlatch =>
    refine .sentLast (.resumed :: between) older createdAt settledAt head rest ?_ ?_
      (hnewest.trans hhead) hidentical hsettled (fun stored hstored => haged stored (hnewest ▸ hstored))
      (hstanding.trans hcounted) (fun _ _ hempty => absurd hempty (by simp))
    · rw [cons_append, ← hlog]
    · intro entry hentry
      obtain rfl | hold := mem_cons.mp hentry
      · rfl
      · exact hbetween entry hold

theorem StormInv.step (h : book.StormInv quiet standing desk) {event : StormEvent}
    {next : StormDesk} (hstep : book.step quiet desk event next) :
    book.StormInv quiet standing next := by
  obtain ⟨hpromised, hkeeps, rfl⟩ := hstep
  obtain ⟨row, hrow⟩ := h.row
  cases event with
  | cycle product candleStartsAt fence draws venueOrderId =>
    exact h.cycle product candleStartsAt fence draws venueOrderId hpromised
  | write other =>
    obtain ⟨-, -, hwrite⟩ := rowWrite_saveDeployment other hrow hpromised (.inl rfl)
    obtain ⟨written, hwritten, -⟩ := hwrite.row
    exact ⟨⟨written, hwritten⟩, h.watching.of_rowWrite hwrite (le_refl _) hkeeps, h.backsOff, h.awaits⟩
  | resume refusal now =>
    unfold apply
    dsimp only
    obtain ⟨hanswer, hsame⟩ | ⟨hanswer, hwrite⟩ := resumeDeployment_effect hrow refusal now
    · rw [if_neg hanswer, hsame]
      exact ⟨⟨row, hrow⟩, h.watching, h.backsOff, h.awaits⟩
    · rw [if_pos hanswer]
      exact h.of_resumed hwrite

theorem stormInv_of_reachable (h : Reachable (book.Start standing) (book.step quiet) desk) :
    book.StormInv quiet standing desk :=
  Reachable.invariant (book.StormInv quiet standing) (fun _ => StormInv.of_start)
    (fun _ _ _ hinv hstep => hinv.step hstep) h

end ProtectedBook

/-! ## Main result -/

/-- Against a venue that rejects every submit, from any number of standing rejections: consecutive
submits are the back-off apart; while only the operator writes over a rejection detail of five, a
resume stands between consecutive submits from the fifth rejection on; and the back-off time exists
exactly for up to 41 rejections. -/
theorem rejected_protection_backs_off (book : ProtectedBook) (standing : Nat) :
    (∀ desk, Reachable (book.Start standing) (book.step False) desk → BacksOff standing desk.log) ∧
    (∀ desk, Reachable (book.Start standing) (book.step True) desk →
      AwaitsResume standing desk.log) ∧
    ∀ rejection : SubmitRejection, 0 < rejection.count →
      (rejection.retryAt ≠ none ↔ rejection.count ≤ 41) := by
  refine ⟨?_, ?_, ?_⟩
  · intro desk hreachable
    exact (stormInv_of_reachable hreachable).backsOff
  · intro desk hreachable
    exact (stormInv_of_reachable hreachable).awaits trivial
  · intro rejection hcount
    exact retryAt_ne_none_iff hcount

/-! ## A detail written over the latch -/

namespace ProtectedBook

instance (store : MemoryStore) (draws : CycleDraws) : Decidable (FreshDraws store draws) :=
  decidable_of_iff
    (store.intents.get? draws.intentId = none ∧ store.orders.get? draws.orderId = none ∧
      (∀ order ∈ store.orders.values, order.intentId ≠ draws.intentId) ∧
      ∀ order ∈ store.orders.values, order.clientOrderId ≠ draws.clientOrderId)
    ⟨fun h => ⟨h.1, h.2.1, h.2.2.1, h.2.2.2⟩, fun h => ⟨h.intent, h.order, h.owner, h.client⟩⟩

instance (book : ProtectedBook) (desk : StormDesk) (event : StormEvent) :
    Decidable (book.Promised desk event) :=
  match event with
  | .cycle _ _ _ _ _ => inferInstanceAs (Decidable (_ ∧ _ ∧ _))
  | .write _ => inferInstanceAs (Decidable (_ = _))
  | .resume _ _ => inferInstanceAs (Decidable True)

instance (book : ProtectedBook) (desk : StormDesk) (event : StormEvent) :
    Decidable (book.KeepsLatch desk event) :=
  match event with
  | .write _ => inferInstanceAs (Decidable (_ → _ → _ = _))
  | .cycle _ _ _ _ _ | .resume _ _ => inferInstanceAs (Decidable True)

theorem reachable_of_along {book : ProtectedBook} {quiet : Prop} [Decidable quiet] {standing : Nat}
    {desk : StormDesk} {events : List StormEvent} (h : book.Start standing desk)
    (halong : Along (fun desk event => book.Promised desk event ∧
      (quiet → book.KeepsLatch desk event)) book.apply desk events = true) :
    Reachable (book.Start standing) (book.step quiet) (events.foldl book.apply desk) := by
  refine (Reachable.start h).run (.of_along (fun desk event hstep => ?_) halong)
  obtain ⟨hpromised, hkeeps⟩ := of_decide_eq_true hstep
  exact ⟨hpromised, hkeeps, rfl⟩

end ProtectedBook

/-- A live long of one coin, stopped at 90 and taken at 110. -/
def stormPosition : Position :=
  { deploymentId := 1
    quantity := 1
    entryPrice := 100
    stopPrice := 90
    targetPrice := some 110
    enteredBar := 0
    updatedAt := 0
    productId := "BTC-USD" }

/-- Its book at a venue that finds no balance. -/
def stormBook : ProtectedBook :=
  { deploymentId := 1, position := stormPosition, reason := some "INSUFFICIENT_FUND" }

def stormRow : Deployment :=
  { id := 1
    strategyFingerprint := none
    strategyId := none
    productId := "BTC-USD"
    mode := .live
    status := .running
    cash := 0
    phase := .open
    createdAt := 0
    updatedAt := 0 }

/-- A store that holds the row and nothing else. -/
def stormStart : StormDesk :=
  { store := { empty with deployments := Dict.empty.set 1 stormRow }
    clock := 1
    log := [] }

/-- The `n`-th cycle, at one minute of the clock. -/
def stormCycle (n : Nat) (minute : Int) : StormEvent :=
  let now := minute * minuteLength
  .cycle { productId := "BTC-USD", priceIncrement := 1 } 0 none
    { checkedAt := now
      createdAt := now
      settledAt := now
      pausedAt := now
      intentId := BitVec.ofNat 128 n
      orderId := BitVec.ofNat 128 n
      childId := 0
      clientOrderId := String.ofList (List.replicate n 'x') }
    "venue"

def fiveRejections : List StormEvent :=
  [stormCycle 1 1, stormCycle 2 2, stormCycle 3 4, stormCycle 4 8, stormCycle 5 16]

/-- Five rejections, another fault's pause, and the next cycle after the back-off. -/
def stormEvents : List StormEvent :=
  fiveRejections ++
    [.write { stormRow with
      status := .paused
      mismatchDetail := some "Could not cancel resting orders before a marketable exit." },
    stormCycle 6 32]

theorem stormStart_start : stormBook.Start 0 stormStart where
  row := ⟨stormRow, rfl, rfl⟩
  aged := by decide +kernel
  counted := by decide +kernel
  unseen := rfl

/-- A quiet run: after five rejections the operator resumes the book and a sixth submit goes out. -/
theorem rejected_protection_backs_off_resumed :
    let desk := (fiveRejections ++ [.resume none (20 * minuteLength), stormCycle 6 32]).foldl
      stormBook.apply stormStart
    sentCount desk.log = 6 ∧ BacksOff 0 desk.log ∧ AwaitsResume 0 desk.log := by
  obtain ⟨hspaced, hawaits, -⟩ := rejected_protection_backs_off stormBook 0
  exact ⟨by decide +kernel, hspaced _ (reachable_of_along stormStart_start (by decide +kernel)),
    hawaits _ (reachable_of_along stormStart_start (by decide +kernel))⟩

/-- After five rejections another fault's pause detail lets the sixth identical submit go out
with no resume, and after 42 rejections the back-off time overflows. -/
theorem overwritten_detail_resends :
    (∃ desk, Reachable (stormBook.Start 0) (stormBook.step False) desk ∧
      ¬ AwaitsResume 0 desk.log) ∧
    SubmitRejection.retryAt ⟨"live bracket", 42, "INSUFFICIENT_FUND", 0⟩ = none := by
  refine ⟨⟨stormEvents.foldl stormBook.apply stormStart, ?_, ?_⟩, by decide +kernel⟩
  · exact reachable_of_along stormStart_start (by decide +kernel)
  · intro hawaits
    have hresumed := hawaits (32 * minuteLength) [] (16 * minuteLength) _
      ⟨⟨[], 32 * minuteLength, 16 * minuteLength, rfl⟩, by simp⟩ (by decide)
    cases hresumed

end Thytrader.Execution
