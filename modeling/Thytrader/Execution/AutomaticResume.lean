import Thytrader.Execution.PauseWrites

/-!
# Automatic resume undoes only its own pause

In a run whose retentions heed the writes they would undo, a book that shows a system pause and
nothing else was moved out of RUNNING by that pause and paused by nobody since
(`SceneInv.cause`), so each automatic resume takes back its own pause
(`automatic_resume_undoes_own_pause`).

A retention restores the status and the detail its walk started from, and can put an old system
pause back; in an undisturbed walk the walk's comparisons find what came since (`OpenWalk.Sound`).
-/

namespace Thytrader.Execution

open Trading Lib MemoryStore List Function Scene RevisionFence Option Writer Shown

variable {worker : Nat} {walk : OpenWalk} {writer : Writer} {base planned : Deployment}
  {now : Time} {channel : Channel}

/-! ## The invariant -/

/-- The book shows a fault or a retained reason of the worker's own. -/
def OwnFault (row : Deployment) : Prop :=
  row.shown.status ≠ .running ∧ ∃ detail, row.shown.detail = some detail ∧ OtherReason detail

/-- A later version shows the same, or an own fault. -/
def Followed (a b : Deployment) : Prop := b.shown = a.shown ∨ OwnFault b

theorem Followed.trans {a b c : Deployment} (h : Followed a b) (hnext : Followed b c) :
    Followed a c := by
  rcases hnext with hsame | hfault
  · rcases h with hback | hback
    · exact .inl (hsame.trans hback)
    · right
      unfold OwnFault at hback ⊢
      rw [hsame]
      exact hback
  · exact .inr hfault

/-- A later version shows the same. -/
def Kept (a b : Deployment) : Prop := b.shown = a.shown

/-- The row gives no reason but a system pause. -/
def Plain (row : Deployment) : Prop :=
  ∀ detail, row.shown.detail = some detail → ¬ OtherReason detail

/-- An undisturbed walk's first fault is no system pause, and without one its next row shows what
the plain row it started from did. -/
structure OpenWalk.Sound (scene : Scene) (worker : Nat) (walk : OpenWalk) : Prop where
  started : walk.started ∈ scene.versions
  before : walk.before ∈ scene.versions
  order : walk.started.revision ≤ walk.before.revision
  fault : scene.foreign worker ≤ walk.started.revision →
    ∀ pause : SystemPause, walk.firstFault ≠ some pause.detail
  shown : scene.foreign worker ≤ walk.started.revision → walk.firstFault = none →
    Plain walk.started → walk.before.shown = walk.started.shown

/-- The invariant of a run. -/
structure SceneInv (book : Uuid) (scene : Scene) : Prop where
  keyed : DeploymentsKeyed scene.store
  fences : ∀ worker, (scene.fences worker).deploymentId = book
  newest : ∃ row older, scene.versions = row :: older ∧
    scene.store.deployments.get? book = some row
  versions : Versions (·.revision) scene.versions
  ids : ∀ row ∈ scene.versions, row.id = book
  marks : ∀ worker row, scene.store.deployments.get? book = some row →
    scene.own worker ≤ row.revision ∧ scene.foreign worker ≤ row.revision
  cause : ∀ row, scene.store.deployments.get? book = some row → ∀ pause : SystemPause,
    onlyPaused pause.detail row = true →
    scene.cause = some (.system pause) ∧ scene.since = false
  followed : ∀ worker, Since (·.revision) (scene.foreign worker) Followed scene.versions
  kept : ∀ worker,
    Since (·.revision) (max (scene.foreign worker) (scene.own worker)) Kept scene.versions
  walks : ∀ worker depth walk, scene.walks worker depth = some walk → walk.Sound scene worker

section

variable {book : Uuid} {scene : Scene}
variable {row : Deployment} {author : Option Nat}

theorem SceneInv.head (h : SceneInv book scene) :
    scene.versions.head? = scene.store.deployments.get? book := by
  obtain ⟨row, older, hversions, hstored⟩ := h.newest
  rw [hversions, hstored]
  rfl

theorem SceneInv.stored_mem (h : SceneInv book scene)
    (hstored : scene.store.deployments.get? book = some row) : row ∈ scene.versions := by
  rw [← h.head] at hstored
  exact mem_of_mem_head? hstored

section

variable {stored : Deployment} (h : SceneInv book scene) (hrow : row ∈ scene.versions)
  (hstored : scene.store.deployments.get? book = some stored)
include h hrow hstored

theorem SceneInv.le_stored : row.revision ≤ stored.revision := by
  obtain ⟨newest, older, hversions, hget⟩ := h.newest
  rw [hget] at hstored
  rw [← some.inj hstored]
  have hpairs := h.versions
  rw [hversions] at hrow hpairs
  exact hpairs.le_newest hrow

theorem SceneInv.eq_stored (hrevision : stored.revision = row.revision) : row = stored :=
  h.versions.unique hrow (h.stored_mem hstored) hrevision.symm

end

theorem Scene.Initial.inv (h : scene.Initial book) : SceneInv book scene := by
  obtain ⟨row, hstored, hversions, hnone, hmarks⟩ := h.row
  have honly : ∀ a ∈ scene.versions, a = row := by
    intro a ha
    rw [hversions] at ha
    exact mem_singleton.mp ha
  have hsame : ∀ a ∈ scene.versions, ∀ b ∈ scene.versions, b.shown = a.shown := by
    intro a ha b hb
    rw [honly a ha, honly b hb]
  refine ⟨h.keyed, h.fences, ⟨row, [], hversions, hstored⟩, ?_, ?_, ?_, ?_, ?_, ?_, ?_⟩
  · rw [hversions]
    exact pairwise_singleton _ _
  · intro a ha
    rw [honly a ha]
    exact h.keyed _ _ hstored
  · intro worker stored hget
    rw [hstored] at hget
    rw [← some.inj hget]
    exact hmarks worker
  · intro stored hget pause hpaused
    rw [hstored] at hget
    rw [← some.inj hget, onlyPaused_iff] at hpaused
    have hdetail : row.mismatchDetail = some pause.detail := congrArg detail hpaused.1
    rw [hnone] at hdetail
    cases hdetail
  · exact fun worker a ha b hb _ _ => .inl (hsame a ha b hb)
  · exact fun worker a ha b hb _ _ => hsame a ha b hb
  · intro worker depth walk hwalk
    rw [h.walks] at hwalk
    cases hwalk

/-! ## One write -/

theorem OpenWalk.Sound.mono {next : Scene} (h : walk.Sound scene worker)
    (hversions : scene.versions ⊆ next.versions)
    (hforeign : scene.foreign worker ≤ next.foreign worker) : walk.Sound next worker :=
  ⟨hversions h.started, hversions h.before, h.order,
    fun hmark => h.fault (le_trans hforeign hmark),
    fun hmark => h.shown (le_trans hforeign hmark)⟩

variable {fence : Option RevisionFence} {after before deployment : Deployment} {detail : Reason}
  {firstFault : Option String} {status : DeploymentStatus}

section

variable (h : SceneInv book scene)
include h

/-- A scene that only differs in what no part of the invariant but one reads. -/
theorem SceneInv.setFence {fence : RevisionFence} (hfence : fence.deploymentId = book) :
    SceneInv book (scene.setFence worker fence) := by
  refine ⟨h.keyed, ?_, h.newest, h.versions, h.ids, h.marks, h.cause, h.followed, h.kept, ?_⟩
  · intro other
    show (Function.update scene.fences worker fence other).deploymentId = book
    by_cases heq : other = worker
    · subst heq
      rw [update_self]
      exact hfence
    · rw [update_of_ne heq]
      exact h.fences other
  · intro other depth walk hwalk
    exact (h.walks other depth walk hwalk).mono (List.Subset.refl _) (le_refl _)

theorem SceneInv.refence {worker : Option Nat}
    (hfence : ∀ own, fence = some own → own.deploymentId = book) :
    SceneInv book (scene.refence worker fence) := by
  unfold Scene.refence
  split
  next index own => exact h.setFence (hfence own rfl)
  · exact h

theorem SceneInv.setWalk {depth : Nat} (hwalk : walk.Sound scene worker) :
    SceneInv book (scene.setWalk worker depth walk) := by
  refine ⟨h.keyed, h.fences, h.newest, h.versions, h.ids, h.marks, h.cause, h.followed, h.kept, ?_⟩
  intro other level found hfound
  have hsound : found.Sound scene other := by
    simp only [Scene.setWalk] at hfound
    by_cases heq : other = worker
    · subst heq
      rw [update_self] at hfound
      by_cases hlevel : level = depth
      · subst hlevel
        rw [update_self] at hfound
        rw [← some.inj hfound]
        exact hwalk
      · rw [update_of_ne hlevel] at hfound
        exact h.walks other level found hfound
    · rw [update_of_ne heq] at hfound
      exact h.walks other level found hfound
  exact hsound.mono (List.Subset.refl _) (le_refl _)

variable {next : MemoryStore} {cause : Deployment → Deployment → Cause}

theorem SceneInv.withStore (hsame : next.deployments.get? book = scene.store.deployments.get? book)
    (hkeyed : DeploymentsKeyed next) : SceneInv book { scene with store := next } := by
  refine ⟨hkeyed, h.fences, ?_, h.versions, h.ids, ?_, ?_, h.followed, h.kept, ?_⟩
  · obtain ⟨row, older, hversions, hstored⟩ := h.newest
    exact ⟨row, older, hversions, hsame.trans hstored⟩
  · exact fun worker row hrow => h.marks worker row (hsame.symm.trans hrow)
  · exact fun row hrow => h.cause row (hsame.symm.trans hrow)
  · intro worker depth walk hwalk
    exact (h.walks worker depth walk hwalk).mono (List.Subset.refl _) (le_refl _)

theorem Scene.commit_same (cause : Deployment → Deployment → Cause) (author : Option Nat)
    (hsame : next.deployments.get? book = scene.store.deployments.get? book) :
    scene.commit book cause author next = { scene with store := next } := by
  unfold Scene.commit
  rw [h.head, hsame]
  split
  next before after hbefore hafter =>
    rw [hbefore] at hafter
    rw [if_pos (some.inj hafter).symm]
  · rfl

theorem SceneInv.marks_lt (hwrite : Rewrites book scene.store next before after) (worker : Nat) :
    scene.own worker < after.revision ∧ scene.foreign worker < after.revision := by
  obtain ⟨hown, hforeign⟩ := h.marks worker before hwrite.stored
  have hrevision := hwrite.revision
  exact ⟨by omega, by omega⟩

section

variable (cause : Deployment → Deployment → Cause) (author : Option Nat)
  (hwrite : Rewrites book scene.store next before after)
include hwrite

theorem Scene.commit_write :
    scene.commit book cause author next =
      { scene.record cause author before after with store := next } := by
  unfold Scene.commit
  rw [h.head, hwrite.stored, hwrite.get]
  dsimp only
  rw [if_neg]
  intro heq
  have hrevision := hwrite.revision
  rw [heq] at hrevision
  omega

theorem Scene.commit_versions :
    (scene.commit book cause author next).versions = after :: scene.versions := by
  rw [commit_write h cause author hwrite]
  rfl

/-- The marks never move back. -/
theorem SceneInv.foreign_le (worker : Nat) :
    scene.foreign worker ≤ (scene.commit book cause author next).foreign worker := by
  rw [commit_write h cause author hwrite]
  show scene.foreign worker ≤ ite _ _ _
  split
  · exact (h.marks_lt hwrite worker).2.le
  · exact le_refl _

end

/-- An accounted write, whose author's own writes show the same or an own fault, keeps the
invariant. -/
theorem SceneInv.write (hwrite : Rewrites book scene.store next before after)
    (haccounted : Accounted (cause before after) before after)
    (hauthor : author ≠ none → Followed before after) :
    SceneInv book (scene.commit book cause author next) := by
  obtain ⟨newest, older, hversions, hstored⟩ := h.newest
  obtain rfl : newest = before := by
    rw [hwrite.stored] at hstored
    exact (some.inj hstored).symm
  have hbefore : newest ∈ scene.versions := h.stored_mem hwrite.stored
  have hnewer : ∀ a ∈ scene.versions, a.revision < after.revision := by
    intro a ha
    have hle := h.le_stored ha hwrite.stored
    have hrevision := hwrite.revision
    omega
  have hmarks := h.marks_lt hwrite
  have hforeign := h.foreign_le cause author hwrite
  rw [commit_write h cause author hwrite] at hforeign ⊢
  refine ⟨hwrite.keyed h.keyed, h.fences, ⟨after, scene.versions, rfl, hwrite.get⟩, ?_, ?_, ?_, ?_,
    ?_, ?_, ?_⟩
  · exact pairwise_cons.mpr ⟨hnewer, h.versions⟩
  · intro row hrow
    rcases mem_cons.mp hrow with rfl | hold
    · exact hwrite.id
    · exact h.ids row hold
  · intro worker row hrow
    rw [hwrite.get] at hrow
    rw [← some.inj hrow]
    simp only [Scene.record]
    constructor
    · split
      · exact le_refl _
      · exact le_of_lt (hmarks worker).1
    · split
      · exact le_refl _
      · exact le_of_lt (hmarks worker).2
  · intro row hrow pause hpaused
    rw [hwrite.get] at hrow
    rw [← some.inj hrow] at hpaused
    have hshown := (onlyPaused_iff.mp hpaused).1
    have hstatus : after.status = .paused := congrArg status hshown
    simp only [Scene.record, hstatus]
    cases haccounted with
    | kept hkept hholds hquiet =>
      have hold : onlyPaused pause.detail newest = true := by
        rw [onlyPaused_iff] at hpaused ⊢
        rw [← hkept, ← hholds]
        exact hpaused
      have hpausedBefore : newest.status = .paused :=
        congrArg status (onlyPaused_iff.mp hold).1
      obtain ⟨hcause, hsince⟩ := h.cause newest hwrite.stored pause hold
      simp [hpausedBefore, hcause, hsince, hquiet]
    | paused shownPause hrunning hcause hdetail =>
      have heq : shownPause = pause := by
        rw [hshown] at hdetail
        exact (SystemPause.detail_injective (some.inj hdetail)).symm
      simp [hrunning, hcause, heq]
    | other hnot =>
      rw [hnot pause] at hpaused
      cases hpaused
  · intro worker
    show Since _ (ite _ _ _) Followed (after :: scene.versions)
    split
    · exact Since.restart hnewer (.inl rfl)
    next hown =>
      refine (h.followed worker).push hnewer (.inl rfl) (fun a ha hmark => ?_)
      have hlast : Followed newest after := by
        by_cases hshown : after.shown = newest.shown
        · exact .inl hshown
        · refine hauthor (fun hnone => hown ⟨hshown, ?_⟩)
          rw [hnone]
          simp
      exact (h.followed worker a ha newest hbefore hmark (h.le_stored ha hwrite.stored)).trans hlast
  · intro worker
    show Since _ (max (ite _ _ _) (ite _ _ _)) Kept (after :: scene.versions)
    by_cases hshown : after.shown = newest.shown
    · rw [if_neg (fun hchanged => hchanged.1 hshown), if_neg (fun hchanged => hchanged.1 hshown)]
      refine (h.kept worker).push hnewer rfl (fun a ha hmark => ?_)
      exact hshown.trans (h.kept worker a ha newest hbefore hmark (h.le_stored ha hwrite.stored))
    · -- whoever wrote it, one of the two marks is the new revision
      have hmark : max
          (if after.shown ≠ newest.shown ∧ author ≠ some worker then after.revision
            else scene.foreign worker)
          (if after.shown ≠ newest.shown ∧ author = some worker then after.revision
            else scene.own worker) = after.revision := by
        by_cases hworker : author = some worker
        · rw [if_neg (fun hforeign => hforeign.2 hworker), if_pos ⟨hshown, hworker⟩]
          exact max_eq_right (le_of_lt (hmarks worker).2)
        · rw [if_pos ⟨hshown, hworker⟩, if_neg (fun hown => hworker hown.2)]
          exact max_eq_left (le_of_lt (hmarks worker).1)
      rw [hmark]
      exact Since.restart hnewer rfl
  · intro worker depth walk hwalk
    exact (h.walks worker depth walk hwalk).mono (subset_cons_self _ _) (hforeign worker)

theorem SceneInv.unwritten (hrows : next.deployments = scene.store.deployments) :
    SceneInv book (scene.commit book cause author next) := by
  rw [commit_same h cause author (by rw [hrows])]
  refine h.withStore (by rw [hrows]) ?_
  unfold DeploymentsKeyed
  rw [hrows]
  exact h.keyed

end

@[simp] theorem Scene.commit_store (cause : Deployment → Deployment → Cause)
    (author : Option Nat) (next : MemoryStore) :
    (scene.commit book cause author next).store = next := by
  unfold Scene.commit
  split
  · split
    · rfl
    · rfl
  · rfl

@[simp] theorem Scene.refence_store (worker : Option Nat) (fence : Option RevisionFence) :
    (scene.refence worker fence).store = scene.store := by
  unfold Scene.refence
  split
  · rfl
  · rfl

/-! ## Each event -/

theorem Writer.write_fence (h : writer.write base now = some planned) :
    planned.id = base.id ∧ planned.revision = base.revision := by
  cases writer with
  | runtime =>
    cases h
    exact ⟨rfl, rfl⟩
  | clearDataGap =>
    simp only [write] at h
    split at h
    · cases h
    next newest _ =>
      obtain ⟨-, h⟩ := of_ite_ne h (fun hne => by cases hne)
      cases h
      exact ⟨rfl, rfl⟩
  | feedGate =>
    obtain ⟨-, h⟩ := of_ite_ne h (fun hne => by cases hne)
    obtain ⟨-, h⟩ := of_ite_ne h (fun hne => by cases hne)
    split at h
    · obtain ⟨-, h⟩ := of_ite_ne_else h (fun hne => by cases hne)
      cases h
      exact ⟨rfl, rfl⟩
    · obtain ⟨-, h⟩ := of_ite_ne h (fun hne => by cases hne)
      cases h
      exact ⟨rfl, rfl⟩
  | _ =>
    simp only [write, pauseRunningForDataGap, pauseRunningForMissingCandles,
      Execution.noteStopped, setDeploymentStatus, pauseRepeatedlyFailing, pauseSleeve] at h
    repeat' split at h
    all_goals first
      | (obtain rfl := some.inj h; exact ⟨rfl, rfl⟩)
      | cases h

/-- The author of a writer's save leaves what the book showed, or an own fault. -/
theorem Writer.author_followed (h : writer.write base now = some planned)
    (hshown : after.shown = planned.shown) (hauthor : writer.author channel ≠ none) :
    Followed base after := by
  cases writer with
  | fault detail =>
    cases h
    right
    unfold OwnFault
    rw [hshown]
    refine ⟨?_, detail, rfl, detail.property⟩
    show (if base.status = .stopped then DeploymentStatus.stopped else .paused) ≠ .running
    split <;> simp
  | _ => exact absurd rfl hauthor

theorem SceneInv.save_base (h : SceneInv book scene) {current : Deployment}
    (hbase : base ∈ scene.versions) (hwrite : writer.write base now = some planned)
    (hsame : SameControl planned row) (hcurrent : scene.store.deployments.get? book = some current)
    (hrevision : current.revision = row.revision) : base = current :=
  h.eq_stored hbase hcurrent (by rw [hrevision, hsame.revision, (write_fence hwrite).2])

theorem SceneInv.save (h : SceneInv book scene) {channel : Channel} {writer : Writer}
    {base row : Deployment} {now : Time}
    (hallowed : scene.Allowed book (.save channel writer base row now)) :
    SceneInv book (scene.apply book (.save channel writer base row now)) := by
  obtain ⟨hbase, ⟨planned, hwrite, hsame⟩, hscope⟩ := hallowed
  have hid : row.id = book := by
    rw [hsame.id, (write_fence hwrite).1, h.ids base hbase]
  obtain ⟨hfence, hcases⟩ := channel.save_cases scene h.fences hid hscope
  unfold Scene.apply
  dsimp only
  refine SceneInv.refence ?_ hfence
  rcases hcases with ⟨-, hstore⟩ | ⟨current, saved, -, hrevision, -, hrewrites, hshown, hholds⟩
  · exact h.unwritten (by rw [hstore])
  · obtain rfl := h.save_base hbase hwrite hsame hrewrites.stored hrevision
    exact h.write hrewrites
      (write_accounted hwrite (hshown.trans hsame.shown) (hholds.trans hsame.holds))
      (author_followed hwrite (hshown.trans hsame.shown))

theorem breakerPaused_accounted {latch : Bool}
    (h : base.status = .running ∨ (latch = true ∧ base.dailyLossLatched = false)) :
    Accounted .breaker base (breakerPaused base detail latch now) := by
  refine .other ?_
  rcases h with hrunning | ⟨hlatch, -⟩
  · refine notResumable_of_reason ?_ detail.property
    simp [Deployment.shown, breakerPaused, hrunning]
  · refine notResumable_of_holds ?_
    simp [Deployment.holds, breakerPaused, hlatch]

theorem SceneInv.breakerPause (h : SceneInv book scene) {latch : Bool}
    (hbase : base ∈ scene.versions)
    (hpeer : base.status = .running ∨ (latch = true ∧ base.dailyLossLatched = false))
    (hauthor : author = none) :
    SceneInv book (scene.commit book (fun _ _ => .breaker) author
      (scene.store.saveBreakerPause book base.revision detail latch now).2) := by
  rcases saveBreakerPause_cases scene.store book base.revision detail latch now with
    ⟨failure, hrun⟩ | ⟨current, hcurrent, hrevision, hrun⟩
  · rw [hrun]
    exact h.unwritten rfl
  · obtain rfl := h.eq_stored hbase hcurrent hrevision
    rw [hrun]
    refine h.write ⟨hcurrent, rfl, h.ids base hbase, rfl⟩ (breakerPaused_accounted hpeer) ?_
    exact fun hsome => absurd hauthor hsome

theorem fill_accounted (h : Supervised before after) :
    Accounted (fillCause before after) before after := by
  have hfault : ∀ detail ∈ fillFaultDetails, after.mismatchDetail = some detail →
      Accounted (fillCause before after) before after := fun detail hmem hdetail =>
    .other (notResumable_of_reason hdetail (fillFaultDetails_otherReason detail hmem))
  rcases h.shown with hsame | ⟨-, detail, hmem, hdetail⟩
  · by_cases hcause : after.status = faultStatus before ∧
        after.mismatchDetail.any (· ∈ fillFaultDetails)
    · obtain ⟨-, hany⟩ := hcause
      cases hdetail : after.mismatchDetail with
      | none =>
        rw [hdetail] at hany
        cases hany
      | some detail =>
        rw [hdetail] at hany
        exact hfault detail (by simpa using hany) hdetail
    · refine .kept hsame h.holds ?_
      rw [fillCause, if_neg hcause]
      rfl
  · exact hfault detail hmem hdetail

theorem SceneInv.fill (h : SceneInv book scene) {call : FillCall}
    (hown : call.deploymentId = book) :
    SceneInv book (scene.commit book fillCause author (call.run scene.store).2) := by
  rcases call.run_supervised h.keyed with hrows | ⟨current, row, hcurrent, hrows, hid, hrevision,
    hsupervised⟩
  · exact h.unwritten hrows
  · rw [hown] at hcurrent hrows hid
    refine h.write ⟨hcurrent, hrows, hid, hrevision⟩ (fill_accounted hsupervised) (fun _ => ?_)
    rcases hsupervised.shown with hsame | ⟨hstatus, detail, hmem, hdetail⟩
    · exact .inl hsame
    · refine .inr ⟨?_, detail, hdetail, fillFaultDetails_otherReason detail hmem⟩
      show row.status ≠ .running
      rw [hstatus]
      exact faultStatus_ne_running current

theorem SceneInv.funding (h : SceneInv book scene) {flows : List FundingCashFlow}
    {expectedRevision : Option Int} :
    SceneInv book (scene.commit book (fun _ _ => .other) author
      (scene.store.applyFundingTransaction book flows expectedRevision).2) := by
  rcases applyFundingTransaction_cases scene.store book flows expectedRevision with
    hrun | ⟨current, hcurrent, _, hrun⟩
  · rw [hrun]
    exact h.unwritten rfl
  · have hid : current.id = book := h.keyed _ _ hcurrent
    rw [hrun]
    exact h.write ⟨hcurrent, rfl, hid, rfl⟩ (.kept rfl rfl rfl) (fun _ => .inl rfl)

theorem SceneInv.lease (h : SceneInv book scene) {holder : String} {ttl : Duration} :
    SceneInv book (scene.commit book (fun _ _ => .other) none
      (scene.store.acquireWorkerLease book holder now ttl).2) := by
  rcases acquireWorkerLease_cases scene.store book holder now ttl with
    ⟨_, hrun⟩ | ⟨current, hcurrent, ⟨_, hrun⟩ | ⟨_, hrun⟩⟩
  · rw [hrun]
    exact h.unwritten rfl
  · rw [hrun]
    exact h.unwritten rfl
  · have hid : current.id = book := h.keyed _ _ hcurrent
    rw [hrun]
    exact h.write ⟨hcurrent, rfl, hid, rfl⟩ (.kept rfl rfl rfl) (fun _ => .inl rfl)

/-! ## Walks -/

theorem OpenWalk.Sound.open (hrow : row ∈ scene.versions) :
    OpenWalk.Sound scene worker { started := row, before := row } :=
  ⟨hrow, hrow, le_refl _, fun _ _ => by simp, fun _ _ _ => rfl⟩

/-- A fault that a comparison finds is the text of its later row. -/
theorem firstNewFault_new {detail : String} (h : firstNewFault none before after = some detail) :
    after.mismatchDetail = some detail ∧ after.mismatchDetail ≠ before.mismatchDetail := by
  unfold firstNewFault at h
  dsimp only at h
  split at h
  · cases h
  next found hfound =>
    obtain ⟨hnew, h⟩ := of_ite_ne h nofun
    obtain ⟨-, h⟩ := of_ite_ne h nofun
    cases h
    rw [hfound]
    exact ⟨rfl, hnew⟩

/-- A comparison overlooks only a row that runs or shows no new text. -/
theorem firstNewFault_none {detail : String} (h : firstNewFault none before after = none)
    (hdetail : after.mismatchDetail = some detail) (hstatus : after.status ≠ .running) :
    before.mismatchDetail = some detail := by
  unfold firstNewFault at h
  rw [hdetail] at h
  dsimp only at h
  split at h
  next hsame => exact hsame.symm
  · cases h

section

variable (h : SceneInv book scene) (hwalk : walk.Sound scene worker) (hrow : row ∈ scene.versions)
  (horder : walk.before.revision ≤ row.revision)
include h hwalk hrow horder

/-- A comparison with a row the store held no earlier keeps a walk sound. -/
theorem OpenWalk.Sound.judge :
    OpenWalk.Sound scene worker
      { walk with
        before := row
        firstFault := firstNewFault walk.firstFault walk.before row } := by
  have hfollowed : scene.foreign worker ≤ walk.started.revision → Followed walk.before row :=
    fun hmark => h.followed worker walk.before hwalk.before row hrow
      (le_trans hmark hwalk.order) horder
  refine ⟨hwalk.started, hrow, le_trans hwalk.order horder, fun hmark pause => ?_,
    fun hmark hnone hplain => ?_⟩
  · cases hfirst : walk.firstFault with
    | some =>
      have hkept := hwalk.fault hmark pause
      rw [hfirst] at hkept
      exact hkept
    | none =>
      intro hnew
      obtain ⟨hdetail, hchanged⟩ := firstNewFault_new hnew
      rcases hfollowed hmark with hsame | ⟨-, other, hother, hreason⟩
      · exact hchanged (congrArg detail hsame)
      · have htext : row.mismatchDetail = some other := hother
        rw [hdetail] at htext
        exact hreason pause (some.inj htext).symm
  · cases hfirst : walk.firstFault with
    | some =>
      rw [hfirst] at hnone
      exact absurd hnone (by simp [firstNewFault])
    | none =>
      rw [hfirst] at hnone
      have hbefore := hwalk.shown hmark hfirst hplain
      rcases hfollowed hmark with hsame | ⟨hstatus, other, hother, hreason⟩
      · exact hsame.trans hbefore
      · -- an own fault would have been found, for the walk started from no such reason
        have hshown : walk.before.mismatchDetail = some other :=
          firstNewFault_none hnone hother hstatus
        have hstarted : walk.started.shown.detail = some other := by
          rw [← hbefore]
          exact hshown
        exact absurd hreason (hplain other hstarted)

/-- The next comparison may start from any row the store held since, when nothing of the
worker's own came between. -/
theorem OpenWalk.Sound.compareFrom (hown : scene.own worker ≤ walk.before.revision) :
    OpenWalk.Sound scene worker { walk with before := row } := by
  refine ⟨hwalk.started, hrow, le_trans hwalk.order horder, hwalk.fault,
    fun hmark hnone hplain => ?_⟩
  have hkept : row.shown = walk.before.shown :=
    h.kept worker walk.before hwalk.before row hrow
      (max_le (le_trans hmark hwalk.order) hown) horder
  exact hkept.trans (hwalk.shown hmark hnone hplain)

end

variable {detail : Option String}

/-- What a saved retention shows. -/
theorem retainedRow_shown :
    (retainedRow deployment status detail firstFault now).shown =
      ⟨retainedStatus status deployment.status firstFault, retainedDetail detail firstFault⟩ := by
  unfold retainedRow Deployment.shown withRuntime
  cases retainedDetail detail firstFault with
  | none | some => rfl

theorem retains_spec (h : retains deployment status detail firstFault = true) :
    ¬ (retainedStatus status deployment.status firstFault = deployment.status ∧
        retainedDetail detail firstFault = deployment.mismatchDetail) ∧
      ¬ (status = .running ∧ firstFault = none) := of_decide_eq_true h

/-- A retention of an undisturbed walk saves an own fault. -/
theorem OpenWalk.Sound.retains (hwalk : walk.Sound scene worker)
    (hmark : scene.foreign worker ≤ walk.started.revision)
    (hretains : retains walk.before walk.started.status walk.started.mismatchDetail
      walk.firstFault = true) :
    retainedStatus walk.started.status walk.before.status walk.firstFault ≠ .running ∧
      ∃ detail, retainedDetail walk.started.mismatchDetail walk.firstFault = some detail ∧
        OtherReason detail := by
  obtain ⟨hchanges, hquiet⟩ := retains_spec hretains
  refine ⟨(retainedStatus_spec hquiet).1, ?_⟩
  cases hfirst : walk.firstFault with
  | some first =>
    refine ⟨first, rfl, fun pause heq => ?_⟩
    apply hwalk.fault hmark pause
    rw [hfirst, heq]
  | none =>
    by_cases hplain : Plain walk.started
    · -- without a fault the row shows what the walk started from, so there is nothing to save
      have hbefore := hwalk.shown hmark hfirst hplain
      rw [hfirst] at hchanges hquiet
      have hstatus : walk.before.status = walk.started.status := congrArg status hbefore
      have hdetail : walk.before.mismatchDetail = walk.started.mismatchDetail :=
        congrArg detail hbefore
      refine absurd ⟨?_, hdetail.symm⟩ hchanges
      rw [hstatus]
      cases hstarted : walk.started.status with
      | running => exact absurd ⟨hstarted, rfl⟩ hquiet
      | paused | stopped => rfl
    · unfold Plain at hplain
      push Not at hplain
      exact hplain

theorem OpenWalk.Sound.refence (h : walk.Sound scene worker) {index : Option Nat} :
    walk.Sound (scene.refence index fence) worker := by
  unfold Scene.refence
  split
  · exact ⟨h.started, h.before, h.order, h.fault, h.shown⟩
  · exact h

theorem SceneInv.retain (h : SceneInv book scene) {depth : Nat}
    (hfound : scene.walks worker depth = some walk)
    (hallowed : scene.Allowed book (.retain channel worker depth now))
    (hheeds : scene.Heeds book (.retain channel worker depth now)) :
    SceneInv book (scene.retain book channel worker depth walk now) := by
  have hwalk := h.walks worker depth walk hfound
  unfold Scene.retain
  split
  next hretains =>
    have hid : (retainedRow walk.before walk.started.status walk.started.mismatchDetail
        walk.firstFault now).id = book := h.ids walk.before hwalk.before
    obtain ⟨hfence, hcases⟩ := channel.save_cases scene h.fences hid hallowed.2
    dsimp only
    rcases hcases with ⟨⟨failure, hresult⟩, hstore⟩ |
      ⟨current, saved, hresult, hrevision, hadmits, hrewrites, hshown, hholds⟩
    · rw [hresult]
      exact (h.unwritten (by rw [hstore])).refence hfence
    · obtain rfl : walk.before = current := h.eq_stored hwalk.before hrewrites.stored hrevision
      rw [retainedRow_shown] at hshown
      have hundisturbed : ∀ pause : SystemPause,
          retainedDetail walk.started.mismatchDetail walk.firstFault = some pause.detail →
          scene.foreign worker ≤ walk.started.revision := fun pause hdetail =>
        of_decide_eq_true (hheeds walk hfound ⟨hadmits.1, hadmits.2⟩ ⟨pause, hdetail⟩)
      -- no retention saves a system pause: a disturbed one does not heed, another has a fault
      have hother : NotResumable saved := by
        refine notResumable_of_detail (fun pause hdetail => ?_)
        rw [hshown] at hdetail
        obtain ⟨-, detail, hown, hreason⟩ := hwalk.retains (hundisturbed pause hdetail) hretains
        have hdetail' : retainedDetail walk.started.mismatchDetail walk.firstFault =
            some pause.detail := hdetail
        rw [hown] at hdetail'
        exact hreason pause (some.inj hdetail')
      rw [hresult]
      have hauthor : (if scene.undisturbed worker walk = true then some worker else none) ≠ none →
          Followed walk.before saved := by
        intro hsome
        have hmark : scene.undisturbed worker walk = true := by
          by_contra hdisturbed
          exact hsome (if_neg hdisturbed)
        obtain ⟨hstatus, detail, hown, hreason⟩ := hwalk.retains (of_decide_eq_true hmark) hretains
        refine .inr ⟨?_, detail, ?_, hreason⟩
        · rw [hshown]
          exact hstatus
        · rw [hshown]
          exact hown
      have hwritten : SceneInv book (scene.commit book (fun _ _ => .retention)
          (if scene.undisturbed worker walk = true then some worker else none) _) :=
        h.write hrewrites (.other hother) hauthor
      refine (hwritten.refence hfence).setWalk ?_
      have hversions := commit_versions h (fun _ _ => .retention)
        (if scene.undisturbed worker walk = true then some worker else none) hrewrites
      have hmark := h.foreign_le (fun _ _ => .retention)
        (if scene.undisturbed worker walk = true then some worker else none) hrewrites worker
      refine OpenWalk.Sound.refence ⟨?_, ?_, ?_, ?_, ?_⟩
      · rw [hversions]
        exact mem_cons_of_mem _ hwalk.started
      · rw [hversions]
        exact mem_cons_self ..
      · have horder := hwalk.order
        have hnext := hrewrites.revision
        show walk.started.revision ≤ saved.revision
        omega
      · exact fun hstays => hwalk.fault (le_trans hmark hstays)
      · intro hstays hnone hplain
        obtain ⟨-, detail, hown, hreason⟩ := hwalk.retains (le_trans hmark hstays) hretains
        have hstarted : walk.firstFault = none := hnone
        rw [hstarted] at hown
        exact absurd hreason (hplain detail hown)
  · exact h

/-! ## Runs -/

theorem SceneInv.step (h : SceneInv book scene) {event : PauseEvent} {next : Scene}
    (hstep : heedfulPauseStep book scene event next) : SceneInv book next := by
  obtain ⟨⟨hallowed, rfl⟩, hheeds⟩ := hstep
  cases event with
  | bind => exact h.setFence rfl
  | lease => exact h.lease
  | save => exact h.save hallowed
  | breakerPause worker =>
    cases worker with
    | none => exact h.breakerPause hallowed.1 hallowed.2 rfl
    | some index =>
      simp only [Scene.apply, saveBreakerPause_store]
      refine (h.breakerPause hallowed.1 hallowed.2 rfl).setFence ?_
      rw [saveBreakerPause_fence]
      exact h.fences index
  | fill worker =>
    cases worker with
    | none => exact h.fill hallowed
    | some index =>
      simp only [Scene.apply, (applyFill_store _ _ _).1]
      refine (h.fill hallowed).setFence ?_
      rw [applyFill_fence]
      exact h.fences index
  | funding worker flows expectedRevision =>
    cases worker with
    | none => exact h.funding
    | some index =>
      obtain ⟨expected, hstore⟩ := applyFunding_store (scene.fences index) scene.store
        book flows expectedRevision
      simp only [Scene.apply, hstore]
      refine h.funding.setFence ?_
      rw [applyFunding_fence]
      exact h.fences index
  | openWalk => exact h.setWalk (OpenWalk.Sound.open hallowed)
  | judge worker depth =>
    simp only [Scene.apply]
    cases hfound : scene.walks worker depth with
    | none => exact h
    | some walk =>
      exact h.setWalk (OpenWalk.Sound.judge h (h.walks worker depth walk hfound) hallowed.1
        (hallowed.2 walk hfound))
  | compareFrom worker depth =>
    simp only [Scene.apply]
    cases hfound : scene.walks worker depth with
    | none => exact h
    | some walk =>
      obtain ⟨horder, hown⟩ := hallowed.2 walk hfound
      exact h.setWalk (OpenWalk.Sound.compareFrom h (h.walks worker depth walk hfound) hallowed.1
        horder hown)
  | retain _ worker depth =>
    simp only [Scene.apply]
    cases hfound : scene.walks worker depth with
    | none => exact h
    | some => exact h.retain hfound hallowed hheeds
  | elsewhere =>
    simp only [Scene.apply]
    rw [commit_same h _ _ hallowed.1]
    exact h.withStore hallowed.1 hallowed.2

theorem SceneInv.of_reachable
    (h : Reachable (Scene.Initial book) (heedfulPauseStep book) scene) : SceneInv book scene :=
  Reachable.invariant (SceneInv book) (fun _ hinitial => hinitial.inv)
    (fun _ _ _ hinv hstep => hinv.step hstep) h

/-- The automatic resume an event is. -/
def PauseEvent.clears (pause : SystemPause) : PauseEvent → Prop
  | .save _ (.feedGate _ true) _ _ _ => pause = .userFeed
  | .save _ (.clearDataGap _) _ _ _ => pause = .dataGap
  | _ => False

def PauseEvent.due : PauseEvent → List Time
  | .save _ (.clearDataGap due) _ _ _ => due
  | _ => []

theorem Writer.clear_cases {pause : SystemPause}
    (hclears : (PauseEvent.save channel writer base row now).clears pause)
    (hwrite : writer.write base now = some planned) :
    planned = resumedRow base now ∧ onlyPaused pause.detail base = true ∧
      (pause = .dataGap → ∃ newest,
        (PauseEvent.save channel writer base row now).due.getLast? = some newest ∧
          base.lastEvaluatedBar = some newest) := by
  cases writer with
  | feedGate _ connected =>
    cases connected with
    | false => exact absurd hclears id
    | true =>
      obtain rfl : pause = .userFeed := hclears
      simp only [write, pauseFiveMinuteLiveIfFeedDown, clearFeedOnlyPause] at hwrite
      obtain ⟨-, hwrite⟩ := of_ite_ne hwrite (fun hne => by cases hne)
      obtain ⟨-, hwrite⟩ := of_ite_ne hwrite (fun hne => by cases hne)
      rw [if_pos trivial] at hwrite
      obtain ⟨honly, hwrite⟩ := of_ite_ne_else hwrite (fun hne => by cases hne)
      exact ⟨(some.inj hwrite).symm, honly, fun h => absurd h (by simp)⟩
  | clearDataGap =>
    obtain rfl : pause = .dataGap := hclears
    simp only [write] at hwrite
    split at hwrite
    · cases hwrite
    next newest hnewest =>
      obtain ⟨hclear, hwrite⟩ := of_ite_ne hwrite (fun hne => by cases hne)
      obtain ⟨honly, hcursor⟩ := not_or.mp hclear
      have hpaused : isDataGapOnlyPause base = true := by simpa using honly
      exact ⟨(some.inj hwrite).symm, hpaused, fun _ => ⟨newest, hnewest, not_not.mp hcursor⟩⟩
  | _ => exact absurd hclears id

/-- In every run whose retentions heed the writes they would undo, an automatic resume moves a
status only from PAUSED to RUNNING; the matching system pause was the last write out of RUNNING, no
operator, breaker, portfolio, fault or failure pause came since, and a data-gap resume finds the
cursor at the newest due bar. -/
theorem automatic_resume_undoes_own_pause {next : Scene} {event : PauseEvent} {pause : SystemPause}
    (hreach : Reachable (Scene.Initial book) (heedfulPauseStep book) scene)
    (hstep : heedfulPauseStep book scene event next) (hclears : event.clears pause)
    (hmoved : statusOf next.store book ≠ statusOf scene.store book) :
    statusOf scene.store book = some .paused ∧ statusOf next.store book = some .running ∧
      scene.cause = some (.system pause) ∧ scene.since = false ∧
      (pause = .dataGap → ∃ row newest, scene.store.deployments.get? book = some row ∧
        event.due.getLast? = some newest ∧ row.lastEvaluatedBar = some newest) := by
  have h := SceneInv.of_reachable hreach
  obtain ⟨⟨hallowed, rfl⟩, -⟩ := hstep
  cases event with
  | save channel writer base row now =>
    obtain ⟨hbase, ⟨planned, hwrite, hsame⟩, hscope⟩ := hallowed
    obtain ⟨hplanned, honly, hcursor⟩ := clear_cases hclears hwrite
    have hid : row.id = book := by
      rw [hsame.id, (write_fence hwrite).1, h.ids base hbase]
    obtain ⟨-, hcases⟩ := channel.save_cases scene h.fences hid hscope
    have hstore : (scene.apply book (.save channel writer base row now)).store =
        (channel.save scene row).2.2 := by
      simp only [Scene.apply, refence_store, commit_store]
    rw [hstore] at hmoved ⊢
    rcases hcases with ⟨-, hrefused⟩ | ⟨current, saved, -, hrevision, -, hrewrites, hshown, -⟩
    · rw [hrefused] at hmoved
      exact absurd rfl hmoved
    · obtain rfl := h.save_base hbase hwrite hsame hrewrites.stored hrevision
      obtain ⟨hcause, hsince⟩ := h.cause base hrewrites.stored pause honly
      have hpaused : base.status = .paused := congrArg status (onlyPaused_iff.mp honly).1
      have hrunning : saved.status = .running := by
        have hstatus := congrArg status (hshown.trans hsame.shown)
        rw [hplanned] at hstatus
        exact hstatus
      refine ⟨?_, ?_, hcause, hsince, fun hgap => ?_⟩
      · rw [statusOf, hrewrites.stored, map_some, hpaused]
      · rw [statusOf, hrewrites.get, map_some, hrunning]
      · obtain ⟨newest, hnewest, hlast⟩ := hcursor hgap
        exact ⟨base, newest, hrewrites.stored, hnewest, hlast⟩
  | _ => exact absurd hclears id

end

/-! ## The retention that puts a cleared pause back -/

def pauseScene (mode : DeploymentMode) : Scene :=
  let row : Deployment := { sampleDeployment with mode, timeframe := some "5m" }
  { store := MemoryStore.empty.createDeployment row
    fences := fun _ => ⟨1, 0, "worker"⟩
    walks := fun _ _ => none
    versions := [row]
    cause := none
    since := false
    own := fun _ => 0
    foreign := fun _ => 0 }

theorem pauseScene_initial (mode : DeploymentMode) : (pauseScene mode).Initial 1 := by
  refine ⟨?_, ⟨_, Dict.get?_set_self .., rfl, rfl, fun _ => ⟨le_refl _, le_refl _⟩⟩, fun _ => rfl,
    fun _ _ => rfl⟩
  intro id row hrow
  have hset : (pauseScene mode).store.deployments =
      Dict.empty.set 1 { sampleDeployment with mode, timeframe := some "5m" } := rfl
  rw [hset, Dict.get?_set] at hrow
  obtain ⟨hid, hrow⟩ := of_ite_ne_else hrow nofun
  rw [← some.inj hrow, hid]
  rfl

def Scene.row (scene : Scene) : Deployment := scene.versions.head?.getD sampleDeployment

/-- A client saves what a writer makes of the newest version. -/
def saveEvent (writer : Writer) (scene : Scene) (worker : Option Nat := some 0) : PauseEvent :=
  .save ⟨worker, none⟩ writer scene.row ((writer.write scene.row 0).getD scene.row) 0

/-- A step through the raw store or a fence, whose retention heeds. -/
def heeded (scene : Scene) : PauseEvent → Bool
  | .lease _ _ _ => true
  | .bind _ row _ | .openWalk _ _ row => row ∈ scene.versions
  | .save channel writer base row now =>
    base ∈ scene.versions ∧ channel.scope = none ∧ ∃ planned ∈ writer.write base now,
      row.id = planned.id ∧ row.revision = planned.revision ∧ row.shown = planned.shown ∧
        row.holds = planned.holds
  | .judge worker depth row => row ∈ scene.versions ∧
    ∀ walk ∈ scene.walks worker depth, walk.before.revision ≤ row.revision
  | .retain channel worker depth _ => channel.worker = some worker ∧ channel.scope = none ∧
    ∀ walk ∈ scene.walks worker depth, scene.undisturbed worker walk = true
  | _ => false

theorem heedfulPauseStep_of_heeded {scene : Scene} {event : PauseEvent}
    (h : heeded scene event = true) :
    heedfulPauseStep 1 scene event (scene.apply 1 event) := by
  cases event with
  | lease => exact ⟨⟨trivial, rfl⟩, trivial⟩
  | bind | openWalk | judge =>
    simp only [heeded, decide_eq_true_eq] at h
    exact ⟨⟨h, rfl⟩, trivial⟩
  | save =>
    simp only [heeded, decide_eq_true_eq] at h
    obtain ⟨hbase, hscope, planned, hwrite, hid, hrevision, hshown, hholds⟩ := h
    refine ⟨⟨⟨hbase, ⟨planned, hwrite, ⟨hid, hrevision, hshown, hholds⟩⟩, ?_⟩, rfl⟩, trivial⟩
    simp [hscope]
  | retain =>
    simp only [heeded, decide_eq_true_eq] at h
    obtain ⟨hworker, hscope, hundisturbed⟩ := h
    refine ⟨⟨⟨hworker, ?_⟩, rfl⟩, fun walk hwalk _ _ => hundisturbed walk hwalk⟩
    simp [hscope]
  | _ => cases h

/-- A client's next step, made from what it finds. -/
def Scene.turn (scene : Scene) (event : Scene → PauseEvent) : Scene := scene.apply 1 (event scene)

theorem reachable_of_turns {step : Scene → PauseEvent → Scene → Prop} {scene : Scene}
    (hstep : ∀ {s e t}, heedfulPauseStep 1 s e t → step s e t)
    (h : Reachable (Scene.Initial 1) step scene) {events : List (Scene → PauseEvent)}
    (halong : Along (fun scene event => heeded scene (event scene)) Scene.turn scene events = true) :
    Reachable (Scene.Initial 1) step (events.foldl Scene.turn scene) := by
  induction events generalizing scene with
  | nil => exact h
  | cons event _ ih =>
    obtain ⟨hheeded, hrest⟩ := (Bool.and_eq_true _ _).mp halong
    exact ih (h.next (hstep (heedfulPauseStep_of_heeded hheeded))) hrest

def beginCycle : List (Scene → PauseEvent) :=
  [fun _ => .lease "worker" 0 60, fun scene => .bind 0 scene.row "worker"]

/-- The feed is down; when it is back, the cycle clears the pause, and its reconcile walk starts
from the row the cycle had read before and reads the book. -/
def feedWalked : Scene :=
  List.foldl Scene.turn (pauseScene .live) (beginCycle ++ saveEvent (.feedGate true false) ::
    beginCycle ++ [saveEvent (.feedGate true true),
      fun scene => .openWalk 0 0 (scene.versions.getD 1 scene.row),
      fun scene => .judge 0 0 scene.row])

def feedRetained : Scene :=
  beginCycle.foldl Scene.turn (feedWalked.apply 1 (.retain ⟨some 0, none⟩ 0 0 0))

/-- One worker alone: the feed pauses a live book; a later cycle clears the pause, its walk from the
row read before saves it again, and the next cycle resumes the book that the retention moved. -/
theorem resume_undoes_retention :
    ∃ scene event next, Reachable (Scene.Initial 1) (pauseStep 1) scene ∧
      pauseStep 1 scene event next ∧ event.clears .userFeed ∧
      statusOf scene.store 1 = some .paused ∧ statusOf next.store 1 = some .running ∧
      scene.cause = some .retention := by
  have hwalked : Reachable (Scene.Initial 1) (pauseStep 1) feedWalked :=
    reachable_of_turns And.left (.start (pauseScene_initial .live)) (by decide +kernel)
  have hretained : pauseStep 1 feedWalked (.retain ⟨some 0, none⟩ 0 0 0)
      (feedWalked.apply 1 (.retain ⟨some 0, none⟩ 0 0 0)) :=
    ⟨⟨rfl, fun _ h => absurd h (by simp)⟩, rfl⟩
  have hreach : Reachable (Scene.Initial 1) (pauseStep 1) feedRetained :=
    reachable_of_turns And.left (hwalked.next hretained) (by decide +kernel)
  exact ⟨_, saveEvent (.feedGate true true) feedRetained, _, hreach,
    (heedfulPauseStep_of_heeded (by decide +kernel)).1, rfl, by decide +kernel,
    by decide +kernel, by decide +kernel⟩

/-! ## A heedful run that resumes -/

/-- A walk finds two faults and its retention puts the first back; the operator resumes the book,
a later cycle pauses it for a gapped window, and the closed-bar loop moves its cursor. -/
def gapEvaluated : Scene :=
  List.foldl Scene.turn (pauseScene .paper) (beginCycle ++ [fun scene => .openWalk 0 0 scene.row,
    saveEvent (.fault ⟨"Filled order has no REST fills.", by rintro ⟨⟩ <;> decide⟩),
    fun scene => .judge 0 0 scene.row,
    saveEvent (.fault ⟨"Stored fills have unapplied economics.", by rintro ⟨⟩ <;> decide⟩),
    fun scene => .judge 0 0 scene.row,
    fun _ => .retain ⟨some 0, none⟩ 0 0 0, (saveEvent (.operate .running false) · none)] ++
    beginCycle ++ [saveEvent (.dataGap .decision), fun scene =>
      .save ⟨some 0, none⟩ .runtime scene.row { scene.row with lastEvaluatedBar := some 10 } 0])

/-- The pause is cleared once the cursor is the newest due bar. -/
theorem automatic_resume_undoes_own_pause_dataGap :
    statusOf gapEvaluated.store 1 = some .paused ∧
      statusOf (gapEvaluated.turn (saveEvent (.clearDataGap [10]))).store 1 = some .running ∧
      gapEvaluated.cause = some (.system .dataGap) ∧ gapEvaluated.since = false ∧
      (SystemPause.dataGap = .dataGap → ∃ row newest,
        gapEvaluated.store.deployments.get? 1 = some row ∧
        (saveEvent (.clearDataGap [10]) gapEvaluated).due.getLast? = some newest ∧
        row.lastEvaluatedBar = some newest) :=
  automatic_resume_undoes_own_pause
    (reachable_of_turns id (.start (pauseScene_initial .paper)) (by decide +kernel))
    (heedfulPauseStep_of_heeded (by decide +kernel)) rfl (by decide +kernel)

end Thytrader.Execution
