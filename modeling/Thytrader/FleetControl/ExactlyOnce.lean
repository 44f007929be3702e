import Thytrader.FleetControl.Played

/-!
# A fleet operation is applied exactly once

What is stored under a key only grows until it is finished, every recorded command and every
latch change was confirmed by a request executed under its key, and none is made twice
(`fleet_operation_applied_once`).
-/

namespace Thytrader.FleetControl

open Trading Lib List

/-- How an operation may look later: the same fingerprint, every receipt, and unchanged once it is
finished. -/
structure Continues (before after : FleetOperation) : Prop where
  fingerprint : after.requestFingerprint = before.requestFingerprint
  receipts : before.targets <+: after.targets
  final : before.status ≠ .pending → after = before

theorem Continues.refl (operation : FleetOperation) : Continues operation operation :=
  ⟨rfl, prefix_rfl, fun _ => rfl⟩

theorem Continues.trans {a b c : FleetOperation} (hab : Continues a b) (hbc : Continues b c) :
    Continues a c := by
  refine ⟨hbc.fingerprint.trans hab.fingerprint, hab.receipts.trans hbc.receipts, ?_⟩
  intro hfinal
  obtain rfl := hab.final hfinal
  exact hbc.final hfinal

theorem Progress.continues {before after : FleetOperation} (h : Progress before after) :
    Continues before after :=
  ⟨h.fingerprint, h.targets, fun hfinal => absurd h.pending hfinal⟩

/-- Every stored operation is still there, continued. -/
def LogContinues (s s' : FleetState) : Prop :=
  ∀ key before, s.operations.get? key = some before →
    ∃ after, s'.operations.get? key = some after ∧ Continues before after

variable {s s' : FleetState}

theorem LogContinues.of_eq (h : s'.operations = s.operations) :
    LogContinues s s' := by
  intro key before hbefore
  rw [h]
  exact ⟨before, hbefore, .refl before⟩

theorem LogContinues.trans {s t u : FleetState} (hst : LogContinues s t) (htu : LogContinues t u) :
    LogContinues s u := by
  intro key before hbefore
  obtain ⟨middle, hmiddle, hfirst⟩ := hst key before hbefore
  obtain ⟨after, hafter, hsecond⟩ := htu key middle hmiddle
  exact ⟨after, hafter, hfirst.trans hsecond⟩

variable {key : String} {operation : FleetOperation}

theorem LogContinues.put (hset : s'.operations = s.operations.set key operation)
    (hbefore : ∀ before, s.operations.get? key = some before → Continues before operation) :
    LogContinues s s' := by
  intro other before hother
  rw [hset, Dict.get?_set]
  split
  next hkey => exact ⟨operation, rfl, hbefore before (hkey ▸ hother)⟩
  · exact ⟨before, hother, .refl before⟩

/-- The call executed a request under the key. -/
structure Confirms (sha256 : String → String) (s : FleetState) (key : String) (call : FleetCall)
    (request : FleetExecuteRequest) : Prop where
  executes : ∃ audited, call = .execute request audited
  names : request.idempotencyKey = key
  bound : ∃ operation, s.operations.get? key = some operation ∧
    operation.requestFingerprint = fingerprint sha256 request

variable {request : FleetExecuteRequest}

theorem Confirms.continue {sha256 : String → String} {call : FleetCall}
    (h : Confirms sha256 s key call request) (hlog : LogContinues s s') :
    Confirms sha256 s' key call request := by
  obtain ⟨operation, hstored, hprint⟩ := h.bound
  obtain ⟨after, hafter, hcontinues⟩ := hlog key operation hstored
  exact ⟨h.executes, h.names, after, hafter, hcontinues.fingerprint.trans hprint⟩

section

variable {sha256 : String → String} {modeOf : Uuid → DeploymentMode} {s s' : FleetState}
  {call : FleetCall} {k : Knowledge} {op : FleetOp} {answer : op.Answer}

def CommandBy (sha256 : String → String) (call : FleetCall) (s : FleetState)
    (c : RecordedCommand) : Prop :=
  ∃ request, Confirms sha256 s c.key call request ∧
    ⟨c.deploymentId, c.revision⟩ ∈ request.expectedTargets

def ChangeBy (sha256 : String → String) (call : FleetCall) (s : FleetState) (c : LatchChange) :
    Prop :=
  ∃ request, Confirms sha256 s c.key call request ∧ request.action.latches ∧
    c.replaced.map Prod.fst = request.mode.modes ∧
    ∀ pair ∈ c.replaced, request.expectedInhibition.confirmed pair.1 = some pair.2

/-- What one step of a call writes: operations it continues, and at most one command or one
change of the latch, each confirmed. -/
structure Written (sha256 : String → String) (call : FleetCall) (s s' : FleetState) : Prop where
  log : LogContinues s s'
  commands : ∀ c ∈ s'.recordedCommands, c ∈ s.recordedCommands ∨ CommandBy sha256 call s' c
  changes : ∀ c ∈ s'.latchChanges, c ∈ s.latchChanges ∨ ChangeBy sha256 call s' c

theorem Written.quiet (hoperations : s'.operations = s.operations)
    (hcommands : s'.recordedCommands = s.recordedCommands)
    (hchanges : s'.latchChanges = s.latchChanges) : Written sha256 call s s' :=
  ⟨.of_eq hoperations, fun _ hc => .inl (hcommands ▸ hc), fun _ hc => .inl (hchanges ▸ hc)⟩

theorem Written.refl : Written sha256 call s s := .quiet rfl rfl rfl

theorem Written.put (hset : s'.operations = s.operations.set key operation)
    (hbefore : ∀ before, s.operations.get? key = some before → Continues before operation)
    (hcommands : s'.recordedCommands = s.recordedCommands)
    (hchanges : s'.latchChanges = s.latchChanges) : Written sha256 call s s' :=
  ⟨.put hset hbefore, fun _ hc => .inl (hcommands ▸ hc), fun _ hc => .inl (hchanges ▸ hc)⟩

theorem Knowledge.Guards.names {audited : Bool} (hguards : k.Guards key)
    (hcall : k.call = .execute request audited) : request.idempotencyKey = key := by
  have hguarded := hguards.1
  rw [hcall] at hguarded
  exact Option.some.inj hguarded

theorem exec_written (hknown : Known modeOf call k s)
    (hrequire : Required sha256 modeOf k (.act op)) (hexec : op.exec modeOf s answer s') :
    Written sha256 call s s' := by
  obtain ⟨-, hrequire⟩ := hrequire
  cases FleetOp.exec_writes hexec with
  | nothing => exact .refl
  | modes modes inhibited now =>
    obtain ⟨-, hoperations, hcommands, hchanges⟩ := s.setModes_frame modes inhibited now
    exact .quiet hoperations hcommands hchanges
  | inserted =>
    have hnone := hknown.guarded hrequire.1 hrequire.2.1
    exact .put rfl (fun before hbefore => absurd (hnone.symm.trans hbefore) (by simp)) rfl rfl
  | saved | receipted =>
    obtain ⟨hguards, before, hstored, hprogress, -⟩ := hrequire
    refine .put rfl (fun stored hget => ?_) rfl rfl
    cases (hknown.guarded hguards hstored).symm.trans hget
    exact hprogress.continues
  | @latched operation request _ _ _ _ hconfirmed _ hset hcommands hchanges =>
    obtain ⟨hguards, hstored, hpending, ⟨⟨audited, hcall⟩, hprint⟩, hlatches⟩ := hrequire
    refine ⟨.put hset (fun stored hget => ?_), fun _ hc => .inl (hcommands ▸ hc), ?_⟩
    · cases (hknown.guarded hguards hstored).symm.trans hget
      exact ⟨rfl, prefix_rfl, fun hfinal => absurd hpending hfinal⟩
    · intro c hc
      rw [hchanges, mem_append, mem_singleton] at hc
      rcases hc with hold | rfl
      · exact .inl hold
      · refine .inr ⟨request, ⟨⟨audited, hknown.mine ▸ hcall⟩, hguards.names hcall, ?_⟩, hlatches,
          ?_, ?_⟩
        · rw [hset, Dict.get?_set_self]
          exact ⟨_, rfl, hprint⟩
        · rw [map_map]
          exact map_id _
        · intro pair hpair
          obtain ⟨mode, hmode, rfl⟩ := mem_map.mp hpair
          exact hconfirmed mode hmode
  | @commanded row _ _ saved _ _ =>
    obtain ⟨hguards, before, hstored, hprogress, -, hrow⟩ := hrequire
    obtain ⟨-, -, -, request, ⟨⟨audited, hcall⟩, hprint⟩, hexpected⟩ := hrow row rfl
    refine ⟨.put rfl (fun stored hget => ?_), ?_, fun _ hc => .inl hc⟩
    · cases (hknown.guarded hguards hstored).symm.trans hget
      exact hprogress.continues
    · intro c hc
      rcases mem_append.mp hc with hold | hnew
      · exact .inl hold
      · cases mem_singleton.mp hnew
        exact .inr ⟨request, ⟨⟨audited, hknown.mine ▸ hcall⟩, hguards.names hcall, saved,
          Dict.get?_set_self _ _ _, hprint⟩, hexpected⟩
  | deployed | intended | ran => exact .quiet rfl rfl rfl

end

/-! ## Runs -/

variable {sha256 : String → String} {modeOf : Uuid → DeploymentMode}
  {crowd crowd' : Crowd FleetState FleetCall FleetLock Failure FleetOp FleetOp.Answer}
  {event : CrowdEvent FleetCall FleetLock FleetOp StoreCall}

section

variable (hkept : (fleetRegime sha256 modeOf).Kept crowd)
  (hstep : fleetStep sha256 modeOf crowd event crowd')
include hkept hstep

theorem step_written :
    (∃ call ∈ crowd.tasks.map Task.call, Written sha256 call crowd.state crowd'.state) ∨
      (crowd'.state.operations = crowd.state.operations ∧
        crowd'.state.recordedCommands = crowd.state.recordedCommands ∧
        crowd'.state.latchChanges = crowd.state.latchChanges) := by
  cases hstep with
  | start | acquire | release | abandon => exact .inr ⟨rfl, rfl, rfl⟩
  | @act index call op answer next state hat hexec =>
    obtain ⟨k, -, hknown, hrequire⟩ := hkept.acting hat
    refine .inl ⟨call, ?_, exec_written hknown hrequire hexec⟩
    exact mem_map.mpr ⟨_, mem_of_getElem? hat, rfl⟩
  | other henv =>
    obtain ⟨-, hstate⟩ := henv
    rw [hstate]
    exact .inr ⟨rfl, rfl, rfl⟩

theorem step_continues : LogContinues crowd.state crowd'.state := by
  rcases step_written hkept hstep with ⟨call, -, hwritten⟩ | ⟨hoperations, -, -⟩
  · exact hwritten.log
  · exact .of_eq hoperations

end

/-- Every command and every change of the latch was confirmed by an execution of its key. -/
structure Provenance (sha256 : String → String)
    (crowd : Crowd FleetState FleetCall FleetLock Failure FleetOp FleetOp.Answer) : Prop where
  commands : ∀ c ∈ crowd.state.recordedCommands, ∃ call ∈ crowd.tasks.map Task.call,
    CommandBy sha256 call crowd.state c
  changes : ∀ c ∈ crowd.state.latchChanges, ∃ call ∈ crowd.tasks.map Task.call,
    ChangeBy sha256 call crowd.state c

theorem provenance_step (hkept : (fleetRegime sha256 modeOf).Kept crowd)
    (h : Provenance sha256 crowd) (hstep : fleetStep sha256 modeOf crowd event crowd') :
    Provenance sha256 crowd' := by
  have hlog := step_continues hkept hstep
  have hcommands : ∀ c ∈ crowd.state.recordedCommands, ∃ call ∈ crowd'.tasks.map Task.call,
      CommandBy sha256 call crowd'.state c := by
    intro c hc
    obtain ⟨call, hcall, request, hconfirms, hexpected⟩ := h.commands c hc
    exact ⟨call, hstep.calls hcall, request, hconfirms.continue hlog, hexpected⟩
  have hchanges : ∀ c ∈ crowd.state.latchChanges, ∃ call ∈ crowd'.tasks.map Task.call,
      ChangeBy sha256 call crowd'.state c := by
    intro c hc
    obtain ⟨call, hcall, request, hconfirms, hchange⟩ := h.changes c hc
    exact ⟨call, hstep.calls hcall, request, hconfirms.continue hlog, hchange⟩
  rcases step_written hkept hstep with ⟨call, hcall, hwritten⟩ | ⟨-, hsame, hsame'⟩
  · refine ⟨fun c hc => ?_, fun c hc => ?_⟩
    · rcases hwritten.commands c hc with hold | hnew
      · exact hcommands c hold
      · exact ⟨call, hstep.calls hcall, hnew⟩
    · rcases hwritten.changes c hc with hold | hnew
      · exact hchanges c hold
      · exact ⟨call, hstep.calls hcall, hnew⟩
  · exact ⟨fun c hc => hcommands c (hsame ▸ hc), fun c hc => hchanges c (hsame' ▸ hc)⟩

theorem fleet_provenance (h : FleetReachable sha256 modeOf crowd) : Provenance sha256 crowd := by
  induction h with
  | start hinit =>
    refine ⟨fun c hc => ?_, fun c hc => ?_⟩
    · rw [hinit.commands] at hc
      cases hc
    · rw [hinit.changes] at hc
      cases hc
  | next hreach hstep ih => exact provenance_step (fleet_kept hreach) ih hstep

theorem run_continues {events : List (CrowdEvent FleetCall FleetLock FleetOp StoreCall)}
    (hrun : Run (fleetStep sha256 modeOf) crowd events crowd')
    (h : FleetReachable sha256 modeOf crowd) : LogContinues crowd.state crowd'.state := by
  induction hrun with
  | nil => exact .of_eq rfl
  | cons hstep _ ih => exact (step_continues (fleet_kept h) hstep).trans (ih (h.next hstep))

/-- In every interleaving each book has at most one receipt and one command of an operation, each
written on a revision that an execution of its key confirmed; each operation changed the latch at
most once, from the confirmed revisions; and an operation keeps its fingerprint and its receipts,
and does not change once it is finished. -/
theorem fleet_operation_applied_once (h : FleetReachable sha256 modeOf crowd) :
    (∀ key operation, crowd.state.operations.get? key = some operation → operation.receipts.Nodup) ∧
    (crowd.state.recordedCommands.map (fun c => (c.key, c.deploymentId))).Nodup ∧
    (∀ c ∈ crowd.state.recordedCommands, ∃ call ∈ crowd.tasks.map Task.call,
      CommandBy sha256 call crowd.state c) ∧
    (crowd.state.latchChanges.map (·.key)).Nodup ∧
    (∀ c ∈ crowd.state.latchChanges, ∃ call ∈ crowd.tasks.map Task.call,
      ChangeBy sha256 call crowd.state c) ∧
    ∀ events crowd', Run (fleetStep sha256 modeOf) crowd events crowd' →
      ∀ key before, crowd.state.operations.get? key = some before →
        ∃ after, crowd'.state.operations.get? key = some after ∧
          after.requestFingerprint = before.requestFingerprint ∧
          before.targets <+: after.targets ∧ (before.status ≠ .pending → after = before) := by
  have hlog := (fleet_kept h).good.log
  have hprovenance := fleet_provenance h
  refine ⟨hlog.receipts, hlog.commands, hprovenance.commands, hlog.changes, hprovenance.changes, ?_⟩
  intro events crowd' hrun key before hbefore
  obtain ⟨after, hafter, hcontinues⟩ := run_continues hrun h key before hbefore
  exact ⟨after, hafter, hcontinues.fingerprint, hcontinues.receipts, hcontinues.final⟩

/-- A flatten of one confirmed book. -/
def flattenRequest : FleetExecuteRequest :=
  { action := .flatten
    mode := .live
    idempotencyKey := "flatten-1"
    expectedTargets := [⟨7, 0⟩]
    liveAcknowledged := true
    allowEmptyScope := false }

/-- The book is started and the flatten executed to its end; a retry then adds nothing. -/
theorem fleet_operation_applied_once_retried :
    ∃ crowd events crowd' before, FleetReachable id (fun _ => .live) crowd ∧
      crowd.state.operations.get? "flatten-1" = some before ∧ before.status = .accepted ∧
      before.receipts.Nodup ∧ crowd.state.recordedCommands = [⟨"flatten-1", 7, 0⟩] ∧
      Run (fleetStep id (fun _ => .live)) crowd events crowd' ∧ crowd'.tasks.length = 3 ∧
      crowd'.state.recordedCommands = [⟨"flatten-1", 7, 0⟩] ∧
      crowd'.state.operations.get? "flatten-1" = some before := by
  have hinserts : ∀ call, .call call ∈ started 7 ++ .call (.execute flattenRequest false) ::
      List.replicate 26 (.turn 1) → ∀ deployment, call.inserts = some deployment →
        deployment.mode = .live := by
    simp [started, FleetCall.inserts, liveBook]
  obtain ⟨first, crowd, hfirst, hcheck⟩ := @fleet_played .fresh _ (fun played =>
    played.2.state.recordedCommands = [⟨"flatten-1", 7, 0⟩] ∧
      (played.2.state.operations.get? "flatten-1").any (·.status = .accepted) ∧
      (played.2.played (.call (.execute flattenRequest false) ::
        List.replicate 5 (.turn 2))).any (fun later => later.2.tasks.length = 3 ∧
          later.2.state.recordedCommands = [⟨"flatten-1", 7, 0⟩])) hinserts (by decide +kernel)
  obtain ⟨hcommands, haccepted, hretry⟩ := of_decide_eq_true hcheck
  obtain ⟨before, hbefore, hstatus⟩ := (Option.any_eq_true _ _).mp haccepted
  obtain ⟨events, crowd', hrun, hlater⟩ := fleet_played (by simp [FleetCall.inserts]) hretry
  have hreached : FleetReachable id (fun _ => .live) crowd := (FleetReachable.start _ _).run hfirst
  obtain ⟨hreceipts, -, -, -, -, hcontinues⟩ := fleet_operation_applied_once hreached
  obtain ⟨after, hafter, -, -, hsame⟩ := hcontinues events crowd' hrun _ _ hbefore
  have hstatus := of_decide_eq_true hstatus
  obtain ⟨htasks, hlater⟩ := of_decide_eq_true hlater
  rw [hsame (by rw [hstatus]; decide)] at hafter
  exact ⟨crowd, events, crowd', before, hreached, hbefore, hstatus, hreceipts _ _ hbefore,
    hcommands, hrun, htasks, hlater, hafter⟩

end Thytrader.FleetControl
