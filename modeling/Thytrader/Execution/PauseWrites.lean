import Thytrader.Execution.PauseRun

/-!
# What a write does to a pause

Every accepted store call rewrites the stored row one revision on (`Rewrites`), and a save
through any channel only the very row its caller read (`Channel.save_cases`). Every writer's save
is then accounted for (`Writer.write_accounted`): it leaves the pause as it stands, it is a system
pause of a running book, or it leaves a row that no automatic resume applies to.
-/

namespace Thytrader.Execution

open Trading Lib RevisionFence Deployment Option

/-! ## What the store calls do to the row -/

/-- A call wrote the book's row: one revision on, under the same id. -/
structure Rewrites (book : Uuid) (store next : MemoryStore) (before after : Deployment) :
    Prop where
  stored : store.deployments.get? book = some before
  rows : next.deployments = store.deployments.set book after
  id : after.id = book
  revision : after.revision = before.revision + 1

variable {row : Deployment} {detail : String}

section

variable {book : Uuid} {store next : MemoryStore} {before after : Deployment}

theorem Rewrites.get (h : Rewrites book store next before after) :
    next.deployments.get? book = some after := by
  rw [h.rows, Dict.get?_set_self]

theorem Rewrites.keyed (h : Rewrites book store next before after)
    (hkeyed : DeploymentsKeyed store) : DeploymentsKeyed next :=
  Dict.forall_set h.rows h.id hkeyed

theorem RevisionFence.saveDeployment_cases (store : MemoryStore) {fence : RevisionFence}
    (expectedRevision : Option Int) (runtime : Option InstrumentRuntime)
    (hfence : fence.deploymentId = book) (hid : row.id = book) :
    let called := fence.saveDeployment store row expectedRevision runtime
    called.2.1.deploymentId = book ∧
    ((∃ failure, called.1 = .error failure) ∧ called.2.2 = store ∨
      ∃ current, called.1 = .ok (row.withRevision (current.revision + 1)) ∧
        current.revision = row.revision ∧
        row.revision = expectedRevision.getD fence.expectedRevision ∧
        Rewrites book store called.2.2 current (row.withRevision (current.revision + 1))) := by
  unfold RevisionFence.saveDeployment
  rw [if_neg (not_not.mpr (hid.trans hfence.symm))]
  dsimp only
  split
  · exact ⟨hfence, .inl ⟨⟨_, rfl⟩, rfl⟩⟩
  next hrevision =>
    rcases MemoryStore.saveDeployment_cases store row
      (some (expectedRevision.getD fence.expectedRevision)) runtime with
      ⟨failure, hrun⟩ | ⟨current, saved, hcurrent, hexpected, hrun, hrows, -⟩
    · rw [hrun]
      exact ⟨hfence, .inl ⟨⟨_, rfl⟩, rfl⟩⟩
    · have hcurrentRevision : current.revision = row.revision := by
        rcases hexpected with hnone | hsome
        · cases hnone
        · rw [not_not.mp hrevision]
          exact (some.inj hsome).symm
      rw [hrun]
      rw [hid] at hcurrent hrows
      exact ⟨hfence, .inr ⟨current, rfl, hcurrentRevision, not_not.mp hrevision,
        hcurrent, hrows, hid, rfl⟩⟩

section

variable (fence : RevisionFence) (store : MemoryStore)

theorem RevisionFence.saveBreakerPause_fence (id : Uuid) (expectedRevision : Int) (detail : String)
    (latch : Bool) (now : Time) :
    (fence.saveBreakerPause store id expectedRevision detail latch now).2.1.deploymentId =
      fence.deploymentId := by
  unfold RevisionFence.saveBreakerPause
  split
  · split
    · rfl
    · rfl
  · rfl

theorem RevisionFence.applyFill_fence (call : FillCall) :
    (fence.applyFill store call).2.1.deploymentId = fence.deploymentId := by
  unfold RevisionFence.applyFill
  split
  · split
    · rfl
    · rfl
  · rfl

theorem RevisionFence.applyFunding_fence (id : Uuid) (flows : List FundingCashFlow)
    (expectedRevision : Option Int) :
    (fence.applyFunding store id flows expectedRevision).2.1.deploymentId = fence.deploymentId := by
  unfold RevisionFence.applyFunding
  dsimp only
  split
  · split
    · rfl
    · rfl
  · rfl

end

theorem Channel.written_sameControl (channel : Channel) (hid : row.id = book)
    (hscope : ∀ scope, channel.scope = some scope → scope.2.deployment.id = book) :
    SameControl row (channel.written row) := by
  unfold Channel.written
  split
  · exact ⟨rfl, rfl, rfl, rfl⟩
  next productId current hsome =>
    exact scopedParent_sameControl ((hscope _ hsome).trans hid.symm) productId

theorem Channel.save_cases (channel : Channel) (scene : Scene)
    (hfences : ∀ worker, (scene.fences worker).deploymentId = book) (hid : row.id = book)
    (hscope : ∀ scope, channel.scope = some scope → scope.2.deployment.id = book) :
    let called := channel.save scene row
    (∀ fence, called.2.1 = some fence → fence.deploymentId = book) ∧
    ((∃ failure, called.1 = .error failure) ∧ called.2.2 = scene.store ∨
      ∃ current saved, called.1 = .ok saved ∧ current.revision = row.revision ∧
        scene.Admits book channel row ∧ Rewrites book scene.store called.2.2 current saved ∧
        saved.shown = row.shown ∧ saved.holds = row.holds) := by
  obtain ⟨hwrittenId, hwrittenRevision, hwrittenShown, hwrittenHolds⟩ :=
    channel.written_sameControl hid hscope
  unfold Channel.save
  dsimp only
  split
  next hraw =>
    refine ⟨fun fence h => absurd h (by simp), ?_⟩
    rcases MemoryStore.saveDeployment_cases scene.store (channel.written row) (some row.revision)
      (channel.scope.map (fun scope => runtimeFromDeployment row scope.1)) with
      ⟨failure, hrun⟩ | ⟨current, saved, hcurrent, hexpected, hrun, hrows, -⟩
    · rw [hrun]
      exact .inl ⟨⟨_, rfl⟩, rfl⟩
    · have hrevision : current.revision = row.revision := by
        simpa [eq_comm] using hexpected
      rw [hrun]
      rw [hwrittenId, hid] at hcurrent hrows
      refine .inr ⟨current, _, rfl, hrevision, ⟨?_, ?_⟩,
        ⟨hcurrent, hrows, hwrittenId.trans hid, rfl⟩, hwrittenShown, hwrittenHolds⟩
      · rw [hcurrent, map_some, hrevision]
      · intro worker hworker
        rw [hraw] at hworker
        cases hworker
  next worker hworker =>
    obtain ⟨hfence, hcases⟩ := saveDeployment_cases scene.store
      (channel.scope.map (fun _ => row.revision))
      (channel.scope.map (fun scope => runtimeFromDeployment row scope.1)) (hfences worker)
      (hwrittenId.trans hid)
    refine ⟨fun fence h => ?_, ?_⟩
    · rw [← some.inj h]
      exact hfence
    · rcases hcases with hrefused | ⟨current, hresult, hrevision, hexpected, hrewrites⟩
      · exact .inl hrefused
      · rw [hwrittenRevision] at hrevision hexpected
        refine .inr ⟨current, _, hresult, hrevision, ⟨?_, ?_⟩, hrewrites, hwrittenShown,
          hwrittenHolds⟩
        · rw [hrewrites.stored, map_some, hrevision]
        · intro other hother hplain
          rw [hworker] at hother
          rw [← some.inj hother, hexpected, hplain]
          rfl

end

/-! ## What a write does to a pause -/

theorem onlyPaused_iff :
    onlyPaused detail row = true ↔
      row.shown = ⟨.paused, some detail⟩ ∧ row.holds = ⟨.none, false, false⟩ := by
  simp [onlyPaused, shown, holds, and_assoc]

/-- No automatic resume applies to this row. -/
def NotResumable (row : Deployment) : Prop :=
  ∀ pause : SystemPause, onlyPaused pause.detail row = false

theorem notResumable_of_status (h : row.shown.status ≠ .paused) : NotResumable row := by
  intro pause
  rw [Bool.eq_false_iff]
  intro honly
  rw [(onlyPaused_iff.mp honly).1] at h
  exact h rfl

theorem notResumable_of_detail (h : ∀ pause : SystemPause, row.shown.detail ≠ some pause.detail) :
    NotResumable row := by
  intro pause
  rw [Bool.eq_false_iff]
  intro honly
  have hdetail := h pause
  rw [(onlyPaused_iff.mp honly).1] at hdetail
  exact hdetail rfl

theorem notResumable_of_holds (h : row.holds ≠ ⟨.none, false, false⟩) : NotResumable row := by
  intro pause
  rw [Bool.eq_false_iff]
  intro honly
  exact h (onlyPaused_iff.mp honly).2

theorem notResumable_of_reason (hdetail : row.shown.detail = some detail)
    (hreason : OtherReason detail) :
    NotResumable row := by
  refine notResumable_of_detail (fun pause h => ?_)
  rw [hdetail] at h
  exact hreason pause (some.inj h)

/-- A write leaves the pause as it stands, is a system pause of a running book recorded under its
cause, or leaves a row that no automatic resume applies to. -/
inductive Accounted (cause : Cause) (before after : Deployment) : Prop where
  | kept (hshown : after.shown = before.shown) (hholds : after.holds = before.holds)
      (hcause : cause.pauses = false)
  | paused (pause : SystemPause) (hrunning : before.status = .running)
      (hcause : cause = .system pause) (hdetail : after.shown.detail = some pause.detail)
  | other (h : NotResumable after)

theorem Writer.write_accounted {writer : Writer} {base planned after : Deployment} {now : Time}
    (h : writer.write base now = some planned) (hshown : after.shown = planned.shown)
    (hholds : after.holds = planned.holds) : Accounted (writer.cause after) base after := by
  have hreason : ∀ detail : Reason, planned.shown.detail = some detail.val →
      Accounted (writer.cause after) base after := fun detail hdetail =>
    .other (notResumable_of_reason (by rw [hshown]; exact hdetail) detail.property)
  have hrunning : planned.shown.status = .running → Accounted (writer.cause after) base after :=
    fun hstatus => .other (notResumable_of_status (by rw [hshown, hstatus]; simp))
  have hnone : planned.shown.detail = none → Accounted (writer.cause after) base after :=
    fun hdetail => .other (notResumable_of_detail (by rw [hshown, hdetail]; simp))
  cases writer with
  | feedGate _ connected =>
    obtain ⟨-, h⟩ := of_ite_ne h nofun
    obtain ⟨-, h⟩ := of_ite_ne h nofun
    cases connected with
    | true =>
      rw [if_pos rfl, clearFeedOnlyPause] at h
      obtain ⟨-, h⟩ := of_ite_ne_else h nofun
      cases h
      exact hrunning rfl
    | false =>
      rw [if_neg (by simp)] at h
      obtain ⟨hstatus, h⟩ := of_ite_ne h nofun
      cases h
      exact .paused .userFeed (not_not.mp hstatus) rfl (by rw [hshown]; rfl)
  | dataGap reason =>
    obtain ⟨hstatus, h⟩ := of_ite_ne h nofun
    cases h
    by_cases hdecision : reason = .decision
    · subst hdecision
      exact .paused .dataGap (not_not.mp hstatus) rfl (by rw [hshown]; rfl)
    · exact hreason ⟨reason.detail, GapReason.detail_otherReason hdecision⟩ rfl
  | missingCandles liveBroker =>
    obtain ⟨hstatus, h⟩ := of_ite_ne h nofun
    cases h
    by_cases hlive : base.mode = .live ∧ liveBroker = false
    · refine hreason ⟨"Live broker is unavailable.", ?_⟩ ?_
      · intro pause
        cases pause <;> decide
      · simp only [shown, withRuntime, if_pos hlive]
        rfl
    · have hdetail : after.shown.detail = some missingDecisionCandles := by
        rw [hshown]
        simp only [shown, withRuntime, if_neg hlive]
        rfl
      exact .paused .dataGap (not_not.mp hstatus) (if_pos hdetail) hdetail
  | clearDataGap =>
    simp only [Writer.write] at h
    split at h
    · cases h
    next newest _ =>
      obtain ⟨-, h⟩ := of_ite_ne h nofun
      cases h
      exact hrunning rfl
  | fault detail | pauseAlways detail | note detail =>
    cases h
    exact hreason detail rfl
  | noteStopped detail =>
    obtain ⟨-, h⟩ := of_ite_ne h nofun
    cases h
    exact hreason detail rfl
  | clearDetail | settle =>
    cases h
    exact hnone rfl
  | latch =>
    obtain ⟨htrip, h⟩ := of_ite_ne_else h nofun
    cases h
    refine .other (notResumable_of_holds ?_)
    rw [hholds]
    rcases htrip with rfl | rfl
    · simp [latchedRow, holds, withRuntime]
    · simp [latchedRow, holds, withRuntime]
  | runtime =>
    cases h
    exact .kept hshown hholds rfl
  | operate =>
    obtain ⟨-, h⟩ := of_ite_ne h nofun
    obtain ⟨-, h⟩ := of_ite_ne h nofun
    cases h
    exact hnone rfl
  | portfolioLatch detail =>
    obtain ⟨-, h⟩ := of_ite_ne h nofun
    cases h
    exact hreason detail rfl
  | failures detail =>
    obtain ⟨-, h⟩ := of_ite_ne_else h nofun
    obtain ⟨-, h⟩ := of_ite_ne h nofun
    cases h
    exact hreason detail rfl

end Thytrader.Execution
