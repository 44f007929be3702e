import Thytrader.Execution.Idempotency
import Thytrader.FleetControl.Played

/-!
# No start or entry slips past a disarm

A deployment or an entry intent is inserted in the hold of the latch that saw its mode admitted,
so none is inserted from a disarm to the next rearm (`nothing_slips_past_disarm`). An exit intent
neither waits for a lock nor reads the latch, and no calls wait in a circle (`fleet_never_stuck`).
-/

namespace Thytrader.FleetControl

open Trading Lib Execution List Function

variable {index : Nat} {events : List (CrowdEvent FleetCall FleetLock FleetOp StoreCall)}

/-- An operation that may admit a mode again. -/
def FleetOp.Rearms (mode : DeploymentMode) : FleetOp → Prop
  | .setModes modes inhibited _ => inhibited = false ∧ mode ∈ modes
  | .applyLatch _ request _ => request.action ≠ .disarm ∧ mode ∈ request.mode.modes
  | _ => False

def Rearms (mode : DeploymentMode) (event : CrowdEvent FleetCall FleetLock FleetOp StoreCall) :
    Prop :=
  ∃ index op, event = .act index op ∧ op.Rearms mode

instance (mode : DeploymentMode) : (op : FleetOp) → Decidable (op.Rearms mode)
  | .setModes _ _ _ => inferInstanceAs (Decidable (_ ∧ _))
  | .applyLatch _ _ _ => inferInstanceAs (Decidable (_ ∧ _))
  | .now | .uuid7 _ | .appendAudit _ | .prepareAdoption _ | .snapshot | .raiseIfInhibited _ _
  | .getOperation _ | .insertOperation _ | .saveOperation _ | .saveTarget _ _ _
  | .deploymentRow _ | .getDeployment _ | .listDeployments | .insertDeployment _ | .intentByKey _
  | .insertLeasedIntent _ _ | .store _ => isFalse id

instance (mode : DeploymentMode) :
    (event : CrowdEvent FleetCall FleetLock FleetOp StoreCall) → Decidable (Rearms mode event)
  | .act index op => decidable_of_iff (op.Rearms mode)
      ⟨fun h => ⟨index, op, rfl, h⟩, fun ⟨_, _, hevent, h⟩ => by cases hevent; exact h⟩
  | .start _ | .acquire _ _ | .release _ _ | .abandon _ | .other _ =>
    isFalse (fun ⟨_, _, hevent, _⟩ => by cases hevent)

/-! ## The latch -/

variable {modes : List DeploymentMode} {mode : DeploymentMode}

section

variable {s : FleetState} {inhibited : Bool} (h : s.inhibited mode = true)
  (hmodes : inhibited = false → mode ∉ modes)
include h hmodes

theorem update_inhibited {first : DeploymentMode} {rest : List DeploymentMode}
    (hfirst : modes = first :: rest) : update s.inhibited first inhibited mode = true := by
  by_cases hmode : mode = first
  · rw [hmode, update_self]
    by_contra hclear
    exact hmodes (by simpa using hclear) (by simp [hfirst, hmode])
  · rw [update_of_ne hmode]
    exact h

theorem setModes_inhibited {now : Time} :
    (s.setModes modes inhibited now).inhibited mode = true := by
  induction modes generalizing s with
  | nil => exact h
  | cons first _ ih =>
    refine ih ?_ (fun hclear => fun hrest => hmodes hclear (mem_cons_of_mem _ hrest))
    unfold FleetState.setMode
    split
    · exact h
    · exact update_inhibited h hmodes rfl

theorem latchModes_inhibited :
    (modes.foldl (FleetState.latchMode inhibited) s).inhibited mode = true := by
  induction modes generalizing s with
  | nil => exact h
  | cons first _ ih =>
    refine ih ?_ (fun hclear => fun hrest => hmodes hclear (mem_cons_of_mem _ hrest))
    exact update_inhibited h hmodes rfl

end

section

variable {sha256 : String → String} {modeOf : Uuid → DeploymentMode} {s s' : FleetState}
  {op : FleetOp} {answer : op.Answer} {mode : DeploymentMode}

theorem exec_inhibited (hexec : op.exec modeOf s answer s') (h : s.inhibited mode = true)
    (hrearm : ¬ op.Rearms mode) : s'.inhibited mode = true := by
  cases FleetOp.exec_writes hexec with
  | modes =>
    exact setModes_inhibited h (fun hclear hmode => hrearm ⟨hclear, hmode⟩)
  | latched _ _ _ _ _ _ hinhibited =>
    rw [hinhibited]
    exact latchModes_inhibited h (fun hclear hmode => hrearm ⟨by simpa using hclear, hmode⟩)
  | _ => exact h

/-! ## What is inserted -/

/-- Two stores with the same intents, the second with no new deployment. -/
structure NothingInserted (before after : MemoryStore) : Prop where
  intents : after.intents = before.intents
  deployments : ∀ id, (after.deployments.get? id).isSome → (before.deployments.get? id).isSome

variable {store : MemoryStore}

theorem NothingInserted.refl : NothingInserted store store :=
  ⟨rfl, fun _ => id⟩

theorem NothingInserted.run (hrows : DeploymentsKeyed store) {call : StoreCall}
    (hcall : ∀ fence intent, call ≠ .insertLeasedIntent fence intent)
    (hcreated : ∀ created, call ≠ .createDeployment created) :
    NothingInserted store (call.run store) := by
  refine ⟨storeCall_intents store call hcall, ?_⟩
  intro id hid
  rcases call.run_rows hrows with hsame | ⟨row, hset, hsource⟩
  · rw [hsame] at hid
    exact hid
  · rw [hset, Dict.get?_set] at hid
    split at hid
    next hrow =>
      rw [hrow]
      cases hsource with
      | created => exact absurd rfl (hcreated row)
      | saved hcurrent _ hwritten =>
        rw [hwritten]
        exact Option.isSome_of_mem hcurrent
      | rewritten hcurrent => exact Option.isSome_of_mem hcurrent
    · exact hid

/-- An exit's operations can always be performed, and no latch changes what they answer. -/
theorem unlatched_ready (hop : op.unlatched) (s : FleetState) :
    ∃ answer s', op.exec modeOf s answer s' ∧ ∀ latch revisions updatedAt,
      op.exec modeOf { s with inhibited := latch, revisions, updatedAt } answer
        { s' with inhibited := latch, revisions, updatedAt } := by
  cases op with
  | deploymentRow deploymentId =>
    exact ⟨s.store.deployments.get? deploymentId, s, ⟨rfl, rfl⟩, fun _ _ _ => ⟨rfl, rfl⟩⟩
  | intentByKey key =>
    exact ⟨s.store.getIntentByIdempotencyKey key, s, ⟨rfl, rfl⟩, fun _ _ _ => ⟨rfl, rfl⟩⟩
  | insertLeasedIntent fence intent =>
    exact ⟨(s.store.insertLeasedIntent fence intent).1,
      { s with store := (s.store.insertLeasedIntent fence intent).2 }, ⟨_, rfl, rfl⟩,
      fun _ _ _ => ⟨_, rfl, rfl⟩⟩
  | _ => exact absurd hop (by simp [FleetOp.unlatched])

end

/-! ## Runs -/

variable {sha256 : String → String} {modeOf : Uuid → DeploymentMode}
  {crowd crowd' : Crowd FleetState FleetCall FleetLock Failure FleetOp FleetOp.Answer}
  {event : CrowdEvent FleetCall FleetLock FleetOp StoreCall} {mode : DeploymentMode}
variable {fence : Option (Uuid × String)} {intent : OrderIntent}

section

variable (hkept : (fleetRegime sha256 modeOf).Kept crowd)
include hkept

theorem insertDeployment_admitted {deployment : Deployment}
    (hstep : fleetStep sha256 modeOf crowd (.act index (.insertDeployment deployment)) crowd') :
    crowd.state.inhibited deployment.mode = false := by
  cases hstep with
  | act hat =>
    obtain ⟨k, -, hknown, hrequire⟩ := hkept.acting hat
    exact (hknown.clear _ hrequire.2.2.1).2

theorem insertEntry_admitted
    (hstep : fleetStep sha256 modeOf crowd (.act index (.insertLeasedIntent fence intent)) crowd')
    (hentry : intent.purpose = .entry) :
    ∃ row, crowd.state.store.deployments.get? intent.deploymentId = some row ∧
      crowd.state.inhibited row.mode = false := by
  cases hstep with
  | act hat =>
    obtain ⟨k, -, hknown, hrequire⟩ := hkept.acting hat
    obtain ⟨-, hclear, hbooked⟩ := hrequire.2 hentry
    obtain ⟨row, hrow⟩ := Option.isSome_iff_exists.mp (hknown.booked _ hbooked)
    refine ⟨row, hrow, ?_⟩
    rw [hkept.good.rows.modes _ _ hrow]
    exact (hknown.clear _ hclear).2

/-- Only an adoption that was told not to ask inserts its book past the latch. -/
theorem created_past_latch {created : Deployment}
    (hstep : fleetStep sha256 modeOf crowd (.act index (.store (.createDeployment created)))
      crowd') :
    ∃ write task, crowd.tasks[index]? = some task ∧ task.call = .adopt write ∧
      write.respectEntryLatch = false := by
  cases hstep with
  | act hat =>
    obtain ⟨k, -, hknown, hrequire⟩ := hkept.acting hat
    rcases hrequire.2 with hrecord | ⟨write, _, hcall, hrespect, -⟩
    · exact absurd hrecord (by simp [RecordWrite])
    · exact ⟨write, _, hat, hknown.mine.symm.trans hcall, hrespect⟩

end

/-- What steps past a disarm may add for books of the mode: nothing but an adoption's own book. -/
structure Withheld (modeOf : Uuid → DeploymentMode) (mode : DeploymentMode)
    (events : List (CrowdEvent FleetCall FleetLock FleetOp StoreCall)) (before after : FleetState) :
    Prop where
  inhibited : after.inhibited mode = true
  intents : ∀ id intent, after.store.intents.get? id = some intent → intent.purpose = .entry →
    modeOf intent.deploymentId = mode → before.store.intents.get? id = some intent
  deployments : ∀ id, (after.store.deployments.get? id).isSome → modeOf id = mode →
    (before.store.deployments.get? id).isSome ∨
      ∃ index created, .act index (.store (.createDeployment created)) ∈ events ∧ created.id = id

theorem Withheld.quiet {before after : FleetState} (hinhibited : after.inhibited mode = true)
    (h : NothingInserted before.store after.store) : Withheld modeOf mode events before after := by
  refine ⟨hinhibited, ?_, fun id hid _ => .inl (h.deployments id hid)⟩
  intro id intent hintent _ _
  rw [← h.intents]
  exact hintent

theorem Withheld.trans {first second third : FleetState}
    {events' : List (CrowdEvent FleetCall FleetLock FleetOp StoreCall)}
    (h : Withheld modeOf mode events first second)
    (h' : Withheld modeOf mode events' second third) :
    Withheld modeOf mode (events ++ events') first third := by
  refine ⟨h'.inhibited, ?_, ?_⟩
  · intro id intent hintent hentry hmode
    exact h.intents id intent (h'.intents id intent hintent hentry hmode) hentry hmode
  · intro id hid hmode
    rcases h'.deployments id hid hmode with hsecond | ⟨index, created, hevent, hcreated⟩
    · rcases h.deployments id hsecond hmode with hfirst | ⟨index, created, hevent, hcreated⟩
      · exact .inl hfirst
      · exact .inr ⟨index, created, mem_append_left _ hevent, hcreated⟩
    · exact .inr ⟨index, created, mem_append_right _ hevent, hcreated⟩

theorem step_withheld (hkept : (fleetRegime sha256 modeOf).Kept crowd)
    (hstep : fleetStep sha256 modeOf crowd event crowd')
    (hinhibited : crowd.state.inhibited mode = true) (hrearm : ¬ Rearms mode event) :
    Withheld modeOf mode [event] crowd.state crowd'.state := by
  have hrows := hkept.good.rows
  have hwhole := hstep
  cases hstep with
  | start | acquire | release | abandon => exact .quiet hinhibited .refl
  | @other call state henv =>
    obtain ⟨hrecord, rfl⟩ := henv
    refine .quiet hinhibited (.run hrows.keyed ?_ ?_)
    · rintro fence intent rfl
      exact hrecord
    · rintro created rfl
      exact hrecord
  | @act index call op answer next state hat hexec =>
    have hafter : state.inhibited mode = true :=
      exec_inhibited hexec hinhibited (fun hop => hrearm ⟨index, op, rfl, hop⟩)
    cases FleetOp.exec_writes hexec with
    | modes modes inhibited now =>
      refine .quiet hafter ?_
      rw [(crowd.state.setModes_frame modes inhibited now).1]
      exact .refl
    | latched _ _ hstore => exact .quiet hafter (hstore ▸ .refl)
    | commanded _ hcurrent hset hintents =>
      refine .quiet hafter ⟨hintents, fun id hid => ?_⟩
      rw [hset, Dict.get?_set] at hid
      split at hid
      next hsame => exact hsame ▸ Option.isSome_of_mem hcurrent
      · exact hid
    | intended =>
      refine ⟨hafter, fun id other hother hentry hmode => ?_, fun id hid _ => .inl hid⟩
      rw [Dict.get?_set] at hother
      split at hother
      · cases hother
        obtain ⟨row, hrow, hclear⟩ := insertEntry_admitted hkept hwhole hentry
        rw [hrows.modes _ _ hrow, hmode, hinhibited] at hclear
        cases hclear
      · exact hother
    | deployed deployment =>
      have hadmitted := insertDeployment_admitted hkept hwhole
      obtain ⟨k, -, -, hrequire⟩ := hkept.acting hat
      refine ⟨hafter, fun id intent hintent _ _ => hintent, fun id hid hmode => ?_⟩
      have hid : ((crowd.state.store.deployments.set deployment.id deployment).get? id).isSome := hid
      rw [Dict.get?_set] at hid
      split at hid
      next hsame =>
        rw [hrequire.2.2.2, ← hsame, hmode, hinhibited] at hadmitted
        cases hadmitted
      · exact .inl hid
    | ran =>
      obtain ⟨k, -, hknown, hrequire⟩ := hkept.acting hat
      rcases hrequire.2 with hrecord | ⟨_, created, -, -, -, rfl, -⟩
      · refine .quiet hafter (.run hrows.keyed ?_ ?_)
        · rintro fence intent rfl
          exact hrecord
        · rintro created rfl
          exact hrecord
      · refine ⟨hafter, fun id intent hintent _ _ => hintent, fun id hid _ => ?_⟩
        have hid : ((crowd.state.store.deployments.set created.id created).get? id).isSome := hid
        rw [Dict.get?_set] at hid
        split at hid
        next hsame => exact .inr ⟨index, created, mem_cons_self, hsame.symm⟩
        · exact .inl hid
    | _ => exact .quiet hafter .refl

theorem run_withheld (hrun : Run (fleetStep sha256 modeOf) crowd events crowd')
    (h : FleetReachable sha256 modeOf crowd) (hinhibited : crowd.state.inhibited mode = true)
    (hrearm : ∀ event ∈ events, ¬ Rearms mode event) :
    Withheld modeOf mode events crowd.state crowd'.state := by
  induction hrun with
  | nil => exact .quiet hinhibited .refl
  | cons hstep _ ih =>
    have hfirst := step_withheld (fleet_kept h) hstep hinhibited (hrearm _ mem_cons_self)
    exact hfirst.trans (ih (h.next hstep) hfirst.inhibited
      (fun event hevent => hrearm event (mem_cons_of_mem _ hevent)))

/-- An exit intent's task stands at no lock and at no check of the latch, and can move on whatever
the latch says. -/
theorem exit_unhindered (hkept : (fleetRegime sha256 modeOf).Kept crowd)
    (hpurpose : intent.purpose ≠ .entry) {op : LockOp FleetLock FleetOp}
    {next : LockOp.Answer FleetOp.Answer op → FleetProgram Unit}
    (hat : crowd.tasks[index]? = some ⟨.saveIntent fence intent, .perform op next⟩) :
    ∃ act, op = .act act ∧ act.unlatched ∧
      ∃ crowd', fleetStep sha256 modeOf crowd (.act index act) crowd' := by
  obtain ⟨k, -, hknown, hfollows⟩ := hkept.within index _ hat
  have hexempt : k.call.Exempt := ⟨fence, intent, hknown.mine, hpurpose⟩
  cases op with
  | acquire => exact absurd hexempt hfollows.1.1
  | release lock =>
    have hheld : lock ∈ k.held := hfollows.1
    rw [hknown.exempt ⟨fence, intent, rfl, hpurpose⟩] at hheld
    exact absurd hheld (Set.notMem_empty lock)
  | act act =>
    have hunlatched : act.unlatched := hfollows.1.1 hexempt
    obtain ⟨answer, state, hexec, -⟩ := @unlatched_ready modeOf act hunlatched crowd.state
    exact ⟨act, rfl, hunlatched, _, .act hat hexec⟩

/-- No start or entry slips past a disarm. -/
theorem nothing_slips_past_disarm (h : FleetReachable sha256 modeOf crowd) :
    (∀ index deployment crowd',
      fleetStep sha256 modeOf crowd (.act index (.insertDeployment deployment)) crowd' →
        crowd.state.inhibited deployment.mode = false) ∧
    (∀ index fence intent crowd',
      fleetStep sha256 modeOf crowd (.act index (.insertLeasedIntent fence intent)) crowd' →
        intent.purpose = .entry →
          ∃ row, crowd.state.store.deployments.get? intent.deploymentId = some row ∧
            crowd.state.inhibited row.mode = false) ∧
    (∀ mode events crowd', Run (fleetStep sha256 modeOf) crowd events crowd' →
      crowd.state.inhibited mode = true → (∀ event ∈ events, ¬ Rearms mode event) →
        Withheld modeOf mode events crowd.state crowd'.state) ∧
    (∀ index created crowd',
      fleetStep sha256 modeOf crowd (.act index (.store (.createDeployment created))) crowd' →
        ∃ write task, crowd.tasks[index]? = some task ∧ task.call = .adopt write ∧
          write.respectEntryLatch = false) ∧
    (∀ index fence intent op next, intent.purpose ≠ .entry →
      crowd.tasks[index]? = some ⟨.saveIntent fence intent, .perform op next⟩ →
        ∃ act, op = .act act ∧ act.unlatched ∧
          ∃ crowd', fleetStep sha256 modeOf crowd (.act index act) crowd') ∧
    (∀ act : FleetOp, act.unlatched → ∀ s, ∃ answer s', act.exec modeOf s answer s' ∧
      ∀ latch revisions updatedAt,
        act.exec modeOf { s with inhibited := latch, revisions, updatedAt } answer
          { s' with inhibited := latch, revisions, updatedAt }) ∧
    ∀ index, ¬ Relation.TransGen crowd.Waits index index := by
  have hkept := fleet_kept h
  refine ⟨?_, ?_, ?_, ?_, ?_, ?_, ?_⟩
  · intro index deployment crowd' hstep
    exact insertDeployment_admitted hkept hstep
  · intro index fence intent crowd' hstep hentry
    exact insertEntry_admitted hkept hstep hentry
  · intro mode events crowd' hrun hinhibited hrearm
    exact run_withheld hrun h hinhibited hrearm
  · intro index created crowd' hstep
    exact created_past_latch hkept hstep
  · intro index fence intent op next hpurpose hat
    exact exit_unhindered hkept hpurpose hat
  · intro act hact s
    exact unlatched_ready hact s
  · intro index
    exact hkept.no_cycle fleetRegime_sound index

/-- An entry of book 7 that waits for the latch with its base's lock in hand, a start of book 8 that
waits too, and a disarm that has the latch and has set it. -/
def disarmed : List (CrowdMove FleetCall) :=
  started 7 ++
    [.call (.saveIntent none { sampleIntent 5 with deploymentId := 7, idempotencyKey := none }),
      .turn 1, .turn 1, .turn 1, .call (.createDeployment (liveBook 8)),
      .call (.inhibit [.live] 0), .turn 3, .turn 3]

theorem disarmed_inserts (call : FleetCall) (h : .call call ∈ disarmed) (deployment : Deployment)
    (hinserts : call.inserts = some deployment) : deployment.mode = .live := by
  revert deployment
  revert call
  simp [disarmed, started, FleetCall.inserts, liveBook]

/-- The disarm passes, then the entry and the start get the latch and are refused. -/
theorem nothing_slips_past_disarm_waiting :
    ∃ crowd crowd' : FleetCrowd, ∃ events,
      FleetReachable id (fun _ => .live) crowd ∧ crowd.Waits 1 3 ∧ crowd.Waits 2 3 ∧
      Run (fleetStep id (fun _ => .live)) crowd events crowd' ∧
      crowd'.refused 1 ∧ crowd'.refused 2 ∧
      Withheld (fun _ => .live) .live events crowd.state crowd'.state ∧
      crowd'.state.store.intents.entries = [] ∧
      crowd'.state.store.deployments.get? 8 = none := by
  obtain ⟨first, crowd, hfirst, hcheck⟩ := @fleet_played .fresh _ (fun played =>
    played.2.awaited 1 = some .latch ∧ played.2.awaited 2 = some .latch ∧
      played.2.owner .latch = some 3 ∧ played.2.state.inhibited .live = true ∧
      (played.2.played ([.turn 3] ++ List.replicate 4 (.turn 1) ++
        List.replicate 3 (.turn 2))).any (fun later => later.2.refused 1 ∧ later.2.refused 2 ∧
          (∀ event ∈ later.1, ¬ Rearms .live event) ∧
          later.2.state.store.intents.entries = [] ∧
          later.2.state.store.deployments.get? 8 = none)) disarmed_inserts (by decide +kernel)
  obtain ⟨hentry, hstart, howner, hinhibited, hrest⟩ := of_decide_eq_true hcheck
  obtain ⟨events, crowd', hrun, hlater⟩ := fleet_played (by simp) hrest
  obtain ⟨hrefused, hrefused', hquiet, hintents, hdeployments⟩ := of_decide_eq_true hlater
  have hreached : FleetReachable id (fun _ => .live) crowd := (FleetReachable.start _ _).run hfirst
  exact ⟨crowd, crowd', events, hreached, FleetCrowd.waits hentry howner,
    FleetCrowd.waits hstart howner, hrun, hrefused, hrefused',
    (nothing_slips_past_disarm hreached).2.2.1 .live events crowd' hrun hinhibited hquiet,
    hintents, hdeployments⟩

/-- Only a call with an operation left holds a lock, and while there is one, one waits for nobody. -/
theorem fleet_never_stuck (h : FleetReachable sha256 modeOf crowd) :
    (∀ lock i, crowd.owner lock = some i → crowd.Unfinished i) ∧
    ∀ i, crowd.Unfinished i → ∃ j, crowd.Unfinished j ∧ ∀ k, ¬ crowd.Waits j k := by
  have hkept := fleet_kept h
  exact ⟨fun _ _ howner => hkept.holder howner, fun _ hi => hkept.progress fleetRegime_sound hi⟩

/-- The start of book 8 is abandoned where it waits. The disarm holds the latch and the entry waits
for it, so somebody can move. -/
theorem fleet_never_stuck_waiting :
    ∃ crowd : FleetCrowd, FleetReachable id (fun _ => .live) crowd ∧ crowd.Waits 1 3 ∧
      crowd.owner .latch = some 3 ∧ crowd.Unfinished 3 ∧ crowd.tasks.length = 4 ∧
      ¬ crowd.Unfinished 2 ∧ ∃ j, crowd.Unfinished j ∧ ∀ k, ¬ crowd.Waits j k := by
  obtain ⟨events, crowd, hrun, hcheck⟩ := @fleet_played .fresh (disarmed ++ [.abandon 2])
    (fun played => played.2.awaited 1 = some .latch ∧ played.2.owner .latch = some 3 ∧
      played.2.tasks.length = 4 ∧ played.2.ended 2) (fun call h => disarmed_inserts call
        (by simpa using h)) (by decide +kernel)
  obtain ⟨hentry, howner, htasks, hended⟩ := of_decide_eq_true hcheck
  obtain ⟨hholder, hprogress⟩ :=
    fleet_never_stuck ((FleetReachable.start id (fun _ => .live)).run hrun)
  have hholds := hholder .latch 3 howner
  exact ⟨crowd, (FleetReachable.start _ _).run hrun, FleetCrowd.waits hentry howner, howner, hholds,
    htasks, FleetCrowd.not_unfinished hended, hprogress 3 hholds⟩

end Thytrader.FleetControl
