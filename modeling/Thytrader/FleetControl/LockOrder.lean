import Thytrader.FleetControl.Service

/-!
# The fleet's lock order

What a call knows while it runs: the locks it holds, the operation stored under the key it
guards, the mode it saw admitted while it held the latch. `fleetRegime` says which operation each
knowledge permits, and every call keeps to it: an operation or inventory lock is taken first and
alone, the latch last, and an exit intent takes none.
-/

namespace Thytrader.FleetControl

open Trading Lib Execution MarketData List Dict

def FleetLock.rank : FleetLock → Nat
  | .operation _ => 0
  | .inventory _ _ => 0
  | .latch => 1

def FleetCall.key : FleetCall → Option String
  | .execute request _ => some request.idempotencyKey
  | _ => none

/-- `save_intent` of an exit or protection intent. -/
def FleetCall.Exempt (call : FleetCall) : Prop :=
  ∃ fence intent, call = .saveIntent fence intent ∧ intent.purpose ≠ .entry

/-- What `save_intent` does for an exit: it reads no latch. -/
def FleetOp.unlatched : FleetOp → Bool
  | .deploymentRow _ => true
  | .intentByKey _ => true
  | .insertLeasedIntent _ _ => true
  | _ => false

/-- How a stored operation may change: its receipts grow until it is finished. -/
structure Progress (before after : FleetOperation) : Prop where
  pending : before.status = .pending
  key : after.idempotencyKey = before.idempotencyKey
  fingerprint : after.requestFingerprint = before.requestFingerprint
  targets : before.targets <+: after.targets
  distinct : after.receipts.Nodup
  latch : before.latchApplied = true → after.latchApplied = true

/-- What a call knows. -/
structure Knowledge where
  call : FleetCall
  held : Set FleetLock
  stored : Option (Option FleetOperation) := none
  clear : Option DeploymentMode := none
  booked : Option Uuid := none

def Knowledge.Guards (k : Knowledge) (key : String) : Prop :=
  k.call.key = some key ∧ FleetLock.operation key ∈ k.held ∧ FleetLock.latch ∈ k.held

section

variable (sha256 : String → String) (modeOf : Uuid → DeploymentMode)

def Knowledge.Executes (k : Knowledge) (request : FleetExecuteRequest)
    (operation : FleetOperation) : Prop :=
  (∃ audited, k.call = .execute request audited) ∧
    operation.requestFingerprint = fingerprint sha256 request

def Required (k : Knowledge) : LockOp FleetLock FleetOp → Prop
  | .acquire lock => ¬ k.call.Exempt ∧ ∀ l ∈ k.held, l.rank < lock.rank
  | .release lock => lock ∈ k.held
  | .act op =>
    (k.call.Exempt → op.unlatched) ∧
    match op with
    | .snapshot => .latch ∈ k.held
    | .setModes _ _ _ => .latch ∈ k.held
    | .raiseIfInhibited _ _ => .latch ∈ k.held
    | .getOperation key => k.Guards key
    | .insertOperation operation =>
      k.Guards operation.idempotencyKey ∧ k.stored = some none ∧ operation.targets = [] ∧
        operation.latchApplied = false
    | .saveOperation operation =>
      k.Guards operation.idempotencyKey ∧ ∃ before, k.stored = some (some before) ∧
        Progress before operation ∧ operation.latchApplied = before.latchApplied
    | .applyLatch operation request _ =>
      k.Guards operation.idempotencyKey ∧ k.stored = some (some operation) ∧
        operation.status = .pending ∧ k.Executes sha256 request operation ∧ request.action.latches
    | .saveTarget updated expectedRevision saved =>
      k.Guards saved.idempotencyKey ∧ ∃ before, k.stored = some (some before) ∧
        Progress before saved ∧ saved.latchApplied = before.latchApplied ∧
        ∀ row, updated = some row → row.mode = modeOf row.id ∧ row.id ∉ before.receipts ∧
          (∃ receipt ∈ saved.targets, receipt.deploymentId = row.id ∧
            receipt.status = .commandRecorded) ∧
          ∃ request, k.Executes sha256 request saved ∧
            ⟨row.id, expectedRevision⟩ ∈ request.expectedTargets
    | .insertDeployment deployment =>
      .latch ∈ k.held ∧ k.clear = some deployment.mode ∧ deployment.mode = modeOf deployment.id
    | .insertLeasedIntent _ intent => intent.purpose = .entry →
      .latch ∈ k.held ∧ k.clear = some (modeOf intent.deploymentId) ∧
        k.booked = some intent.deploymentId
    | .store call => RecordWrite modeOf call ∨ ∃ write created, k.call = .adopt write ∧
      write.respectEntryLatch = false ∧ write.newDeployment = some created ∧
      call = .createDeployment created ∧ created.mode = modeOf created.id
    | _ => True

def Answers (k : Knowledge) :
    (op : LockOp FleetLock FleetOp) → LockOp.Answer FleetOp.Answer op → Prop
  | .act (.prepareAdoption _), answer => ∀ prepared, answer = .ok prepared →
    prepared.intent.purpose = .adoption ∧ ∀ call ∈ prepared.writes, RecordWrite modeOf call
  | .act (.getOperation key), answer =>
    (∀ stored, k.stored = some stored → answer = stored) ∧
      ∀ operation, answer = some operation →
        operation.idempotencyKey = key ∧ operation.receipts.Nodup
  | .act (.insertOperation _), answer => k.stored = some none → answer = true
  | .act (.applyLatch operation _ now), answer => ∀ saved, answer = .ok saved →
    saved = operation ∨ ∃ inhibition,
      saved = { operation with inhibition, latchApplied := true, updatedAt := now }
  | .act (.deploymentRow deploymentId), answer => ∀ row, answer = some row →
    row.mode = modeOf deploymentId
  | .act (.getDeployment deploymentId), answer => ∀ snapshot, answer = .ok snapshot →
    snapshot.deployment.id = deploymentId ∧ snapshot.deployment.mode = modeOf deploymentId
  | .act .listDeployments, rows => (rows.map (·.id)).Nodup
  | _, _ => True

def learned (k : Knowledge) :
    (op : LockOp FleetLock FleetOp) → LockOp.Answer FleetOp.Answer op → Knowledge
  | .acquire lock, _ => { k with held := insert lock k.held }
  | .release lock, _ =>
    { k with
      held := k.held \ {lock}
      stored := if lock = .latch then k.stored else none
      clear := if lock = .latch then none else k.clear }
  | .act (.getOperation _), answer => { k with stored := some answer }
  | .act (.insertOperation operation), true => { k with stored := some (some operation) }
  | .act (.saveOperation operation), _ => { k with stored := some (some operation) }
  | .act (.setModes _ _ _), _ => { k with clear := none }
  | .act (.applyLatch _ _ _), .ok saved => { k with stored := some (some saved), clear := none }
  | .act (.saveTarget _ _ saved), .ok () => { k with stored := some (some saved) }
  | .act (.raiseIfInhibited mode _), .ok () => { k with clear := some mode }
  | .act (.deploymentRow deploymentId), some _ => { k with booked := some deploymentId }
  | _, _ => k

/-- Every row is under its own id, in the mode it was created with. -/
structure RowsConsistent (store : MemoryStore) : Prop where
  keyed : DeploymentsKeyed store
  modes : ∀ id row, store.deployments.get? id = some row → row.mode = modeOf id

/-- Every operation is under its own key with one receipt for each book, every command has its
receipt and every latch change its flag. -/
structure LogConsistent (s : FleetState) : Prop where
  keys : ∀ key operation, s.operations.get? key = some operation → operation.idempotencyKey = key
  receipts : ∀ key operation, s.operations.get? key = some operation → operation.receipts.Nodup
  commands : (s.recordedCommands.map (fun c => (c.key, c.deploymentId))).Nodup
  commanded : ∀ c ∈ s.recordedCommands, ∃ operation, s.operations.get? c.key = some operation ∧
    ∃ receipt ∈ operation.targets, receipt.deploymentId = c.deploymentId ∧
      receipt.status = .commandRecorded
  changes : (s.latchChanges.map (·.key)).Nodup
  changed : ∀ change ∈ s.latchChanges, ∃ operation, s.operations.get? change.key = some operation ∧
    operation.latchApplied = true

theorem learned_act_held (k : Knowledge) (op : FleetOp) (answer : op.Answer) :
    (learned k (.act op) answer).held = k.held := by
  cases op with
  | insertOperation | applyLatch | saveTarget | raiseIfInhibited | deploymentRow =>
    cases answer <;> rfl
  | _ => rfl

/-- What is true of both stores throughout. -/
structure Consistent (s : FleetState) : Prop where
  rows : RowsConsistent modeOf s.store
  log : LogConsistent s

/-- What a call's knowledge means. -/
structure Known (call : FleetCall) (k : Knowledge) (s : FleetState) : Prop where
  mine : k.call = call
  exempt : call.Exempt → k.held = ∅
  inserts : ∀ deployment, call.inserts = some deployment → deployment.mode = modeOf deployment.id
  stored : ∀ stored, k.stored = some stored → ∃ key, call.key = some key ∧
    FleetLock.operation key ∈ k.held ∧ s.operations.get? key = stored
  clear : ∀ mode, k.clear = some mode → FleetLock.latch ∈ k.held ∧ s.inhibited mode = false
  booked : ∀ id, k.booked = some id → (s.store.deployments.get? id).isSome

def fleetRegime : Regime FleetState FleetCall FleetLock Failure FleetOp StoreCall Knowledge
    FleetOp.Answer where
  protocol := { require := Required sha256 modeOf, answers := Answers modeOf, learn := learned }
  holds k lock := lock ∈ k.held
  rank := FleetLock.rank
  good := Consistent modeOf
  inv := Known modeOf

end

/-! ## Writes of the stores -/

variable {sha256 : String → String} {modeOf : Uuid → DeploymentMode} {s s' : FleetState}

/-- A row write keeps the rows' ids and modes, and removes none. -/
theorem RowsConsistent.set {store next : MemoryStore} (h : RowsConsistent modeOf store)
    {row : Deployment} (hset : next.deployments = store.deployments.set row.id row)
    (hmode : row.mode = modeOf row.id) :
    RowsConsistent modeOf next ∧
      ∀ id, (store.deployments.get? id).isSome → (next.deployments.get? id).isSome := by
  refine ⟨⟨forall_set hset rfl h.keyed, forall_set hset hmode h.modes⟩, fun id hid => ?_⟩
  rw [hset, get?_set]
  split
  · rfl
  · exact hid

theorem RowsConsistent.run {store : MemoryStore} (h : RowsConsistent modeOf store)
    {call : StoreCall} (hcall : RecordWrite modeOf call) :
    RowsConsistent modeOf (call.run store) ∧
      ∀ id, (store.deployments.get? id).isSome → ((call.run store).deployments.get? id).isSome := by
  rcases call.run_rows h.keyed with hsame | ⟨row, hset, hsource⟩
  · refine ⟨⟨?_, ?_⟩, ?_⟩
    · unfold DeploymentsKeyed
      rw [hsame]
      exact h.keyed
    · rw [hsame]
      exact h.modes
    · rw [hsame]
      exact fun _ hid => hid
  · refine h.set hset ?_
    cases hsource with
    | created => exact absurd hcall (by simp [RecordWrite])
    | saved _ _ hrow =>
      rw [hrow]
      exact hcall
    | rewritten hcurrent hsame =>
      rw [hsame.mode]
      exact h.modes _ _ hcurrent

theorem LogConsistent.put (h : LogConsistent s) {operation : FleetOperation}
    {command : Option RecordedCommand} {change : Option LatchChange}
    (hset : s'.operations = s.operations.set operation.idempotencyKey operation)
    (hcommands : s'.recordedCommands = s.recordedCommands ++ command.toList)
    (hchanges : s'.latchChanges = s.latchChanges ++ change.toList)
    (hdistinct : operation.receipts.Nodup)
    (hbefore : ∀ before, s.operations.get? operation.idempotencyKey = some before →
      before.targets <+: operation.targets ∧
        (before.latchApplied = true → operation.latchApplied = true))
    (hcommand : ∀ c, command = some c → c.key = operation.idempotencyKey ∧
      (∃ receipt ∈ operation.targets, receipt.deploymentId = c.deploymentId ∧
        receipt.status = .commandRecorded) ∧
      ∀ before, s.operations.get? operation.idempotencyKey = some before →
        c.deploymentId ∉ before.receipts)
    (hchange : ∀ c, change = some c → c.key = operation.idempotencyKey ∧
      operation.latchApplied = true ∧
      ∀ before, s.operations.get? operation.idempotencyKey = some before →
        before.latchApplied = false) :
    LogConsistent s' := by
  refine ⟨forall_set hset rfl h.keys, forall_set hset hdistinct h.receipts, ?_, ?_, ?_, ?_⟩
  · rw [hcommands, map_append, nodup_append]
    refine ⟨h.commands, by cases command <;> simp, ?_⟩
    intro pair hpair pair' hpair' hsame
    obtain ⟨old, hold, rfl⟩ := mem_map.mp hpair
    obtain ⟨c, hc, rfl⟩ := mem_map.mp hpair'
    obtain ⟨hkey, -, hfresh⟩ := hcommand c (by simpa using hc)
    obtain ⟨before, hstored, receipt, hreceipt, hid, -⟩ := h.commanded old hold
    rw [(Prod.mk.inj hsame).1, hkey] at hstored
    refine hfresh before hstored ?_
    rw [← (Prod.mk.inj hsame).2, ← hid]
    exact mem_map_of_mem hreceipt
  · intro c hc
    rw [hcommands, mem_append] at hc
    rw [hset, get?_set]
    rcases hc with hold | hnew
    · obtain ⟨before, hstored, receipt, hreceipt, hid, hstatus⟩ := h.commanded c hold
      split
      next hkey =>
        rw [hkey] at hstored
        exact ⟨operation, rfl, receipt, (hbefore before hstored).1.subset hreceipt, hid, hstatus⟩
      · exact ⟨before, hstored, receipt, hreceipt, hid, hstatus⟩
    · obtain ⟨hkey, hreceipt, -⟩ := hcommand c (by simpa using hnew)
      rw [if_pos hkey]
      exact ⟨operation, rfl, hreceipt⟩
  · rw [hchanges, map_append, nodup_append]
    refine ⟨h.changes, by cases change <;> simp, ?_⟩
    intro key hkey key' hkey' hsame
    obtain ⟨old, hold, rfl⟩ := mem_map.mp hkey
    obtain ⟨c, hc, rfl⟩ := mem_map.mp hkey'
    obtain ⟨hkey, -, hfresh⟩ := hchange c (by simpa using hc)
    obtain ⟨before, hstored, hlatched⟩ := h.changed old hold
    rw [hsame, hkey] at hstored
    rw [hfresh before hstored] at hlatched
    cases hlatched
  · intro c hc
    rw [hchanges, mem_append] at hc
    rw [hset, get?_set]
    rcases hc with hold | hnew
    · obtain ⟨before, hstored, hlatched⟩ := h.changed c hold
      split
      next hkey =>
        rw [hkey] at hstored
        exact ⟨operation, rfl, (hbefore before hstored).2 hlatched⟩
      · exact ⟨before, hstored, hlatched⟩
    · obtain ⟨hkey, hlatched, -⟩ := hchange c (by simpa using hnew)
      rw [if_pos hkey]
      exact ⟨operation, rfl, hlatched⟩

variable {k : Knowledge} {op : FleetOp} {answer : op.Answer}

/-- What a step leaves alone: operations it does not guard, a latch it does not hold, the rows'
modes and presence. -/
structure Framed (modeOf : Uuid → DeploymentMode) (k : Knowledge) (s s' : FleetState) : Prop where
  operations : ∀ key, FleetLock.operation key ∉ k.held →
    s'.operations.get? key = s.operations.get? key
  inhibited : FleetLock.latch ∉ k.held → s'.inhibited = s.inhibited
  rows : RowsConsistent modeOf s.store → RowsConsistent modeOf s'.store ∧
    ∀ id, (s.store.deployments.get? id).isSome → (s'.store.deployments.get? id).isSome

theorem Framed.refl : Framed modeOf k s s := ⟨fun _ _ => rfl, fun _ => rfl, fun h => ⟨h, fun _ => id⟩⟩

variable {key : String}

/-- A write of a guarded operation that leaves the rows. -/
theorem Framed.put {operation : FleetOperation} (hguards : k.Guards key)
    (hset : s'.operations = s.operations.set key operation)
    (hstore : s'.store = s.store) : Framed modeOf k s s' := by
  refine ⟨?_, fun hlatch => absurd hguards.2.2 hlatch, ?_⟩
  · intro other hother
    rw [hset, get?_set_ne]
    rintro rfl
    exact hother hguards.2.1
  · rw [hstore]
    exact fun h => ⟨h, fun _ => id⟩

theorem Framed.store {store : MemoryStore} (hrows : RowsConsistent modeOf s.store →
      RowsConsistent modeOf store ∧
        ∀ id, (s.store.deployments.get? id).isSome → (store.deployments.get? id).isSome) :
    Framed modeOf k s { s with store } := ⟨fun _ _ => rfl, fun _ => rfl, hrows⟩

theorem exec_framed (hrequire : Required sha256 modeOf k (.act op))
    (hexec : op.exec modeOf s answer s') : Framed modeOf k s s' := by
  obtain ⟨-, hrequire⟩ := hrequire
  cases FleetOp.exec_writes hexec with
  | nothing => exact .refl
  | modes modes inhibited now =>
    obtain ⟨hstore, hoperations, -, -⟩ := s.setModes_frame modes inhibited now
    refine ⟨fun key _ => by rw [hoperations], fun hlatch => absurd hrequire hlatch, ?_⟩
    rw [hstore]
    exact fun h => ⟨h, fun _ => id⟩
  | inserted | saved | receipted => exact .put hrequire.1 rfl rfl
  | latched _ _ hstore hset => exact .put hrequire.1 hset hstore
  | @commanded row current _ saved _ hset =>
    obtain ⟨hguards, before, -, -, -, hrow⟩ := hrequire
    have hput : Framed modeOf k s (s.putOperation saved) := .put hguards rfl rfl
    exact ⟨hput.operations, hput.inhibited, fun h => h.set
      (show _ = s.store.deployments.set (row.withRevision (current.revision + 1)).id _ from hset)
      (hrow row rfl).1⟩
  | deployed => exact .store (fun h => h.set rfl hrequire.2.2)
  | intended => exact .store (fun h => ⟨⟨h.keyed, h.modes⟩, fun _ => id⟩)
  | ran =>
    refine .store (fun h => ?_)
    rcases hrequire with hrecord | ⟨write, created, -, -, -, rfl, hmode⟩
    · exact h.run hrecord
    · exact h.set rfl hmode

variable {call : FleetCall}

theorem Known.guarded (h : Known modeOf call k s) {stored : Option FleetOperation}
    (hguards : k.Guards key) (hstored : k.stored = some stored) :
    s.operations.get? key = stored := by
  obtain ⟨key', hkey', -, hget⟩ := h.stored stored hstored
  rw [← h.mine, hguards.1] at hkey'
  rw [Option.some.inj hkey', hget]

theorem LogConsistent.frame (h : LogConsistent s) (hoperations : s'.operations = s.operations)
    (hcommands : s'.recordedCommands = s.recordedCommands)
    (hchanges : s'.latchChanges = s.latchChanges) : LogConsistent s' := by
  refine ⟨?_, ?_, ?_, ?_, ?_, ?_⟩
  · rw [hoperations]
    exact h.keys
  · rw [hoperations]
    exact h.receipts
  · rw [hcommands]
    exact h.commands
  · rw [hoperations, hcommands]
    exact h.commanded
  · rw [hchanges]
    exact h.changes
  · rw [hoperations, hchanges]
    exact h.changed

theorem exec_log (hlog : LogConsistent s) (hknown : Known modeOf call k s)
    (hrequire : Required sha256 modeOf k (.act op)) (hexec : op.exec modeOf s answer s') :
    LogConsistent s' := by
  obtain ⟨-, hrequire⟩ := hrequire
  have hputs : ∀ {operation : FleetOperation}, s.putOperation operation =
      { s with operations := s.operations.set operation.idempotencyKey operation } := rfl
  have hsaved : ∀ {operation before : FleetOperation}, k.Guards operation.idempotencyKey →
      k.stored = some (some before) → Progress before operation →
        LogConsistent (s.putOperation operation) := by
    intro operation before hguards hstored hprogress
    refine @LogConsistent.put s _ hlog operation none none rfl (by simp [hputs]) (by simp [hputs])
      hprogress.distinct (fun stored hget => ?_) nofun nofun
    cases (hknown.guarded hguards hstored).symm.trans hget
    exact ⟨hprogress.targets, hprogress.latch⟩
  cases FleetOp.exec_writes hexec with
  | nothing => exact hlog
  | modes modes inhibited now =>
    obtain ⟨-, hoperations, hcommands, hchanges⟩ := s.setModes_frame modes inhibited now
    exact hlog.frame hoperations hcommands hchanges
  | inserted operation =>
    obtain ⟨hguards, hstored, htargets, hlatch⟩ := hrequire
    refine @LogConsistent.put s _ hlog operation none none rfl (by simp [hputs]) (by simp [hputs])
      ?_ (fun before hbefore => ?_) nofun nofun
    · rw [FleetOperation.receipts, htargets]
      exact nodup_nil
    · cases (hknown.guarded hguards hstored).symm.trans hbefore
  | saved | receipted =>
    obtain ⟨hguards, before, hstored, hprogress, -⟩ := hrequire
    exact hsaved hguards hstored hprogress
  | @latched operation _ now inhibition _ hfresh _ _ hset hcommands hchanges =>
    obtain ⟨hguards, hstored, -, -⟩ := hrequire
    have hbefore := hknown.guarded hguards hstored
    have hdistinct : operation.receipts.Nodup := hlog.receipts _ _ hbefore
    refine @LogConsistent.put s _ hlog
      { operation with inhibition, latchApplied := true, updatedAt := now } none (some _) hset
      (by rw [hcommands]; simp) hchanges hdistinct (fun stored hget => ?_) nofun ?_
    · cases hbefore.symm.trans hget
      exact ⟨prefix_rfl, fun _ => rfl⟩
    · rintro _ ⟨rfl⟩
      refine ⟨rfl, rfl, fun stored hget => ?_⟩
      cases hbefore.symm.trans hget
      exact hfresh
  | @commanded row _ _ saved _ _ =>
    obtain ⟨hguards, before, hstored, hprogress, hlatch, hrow⟩ := hrequire
    have hbefore := hknown.guarded hguards hstored
    obtain ⟨-, hfresh, hreceipt, -⟩ := hrow row rfl
    refine @LogConsistent.put s _ hlog saved (some _) none rfl rfl (by simp [hputs])
      hprogress.distinct (fun stored hget => ?_) ?_ nofun
    · cases hbefore.symm.trans hget
      exact ⟨hprogress.targets, hprogress.latch⟩
    · rintro _ ⟨rfl⟩
      refine ⟨rfl, hreceipt, fun stored hget => ?_⟩
      cases hbefore.symm.trans hget
      exact hfresh
  | deployed | intended | ran => exact hlog.frame rfl rfl rfl

/-- The rows of `list_deployments` are the stored ones, each once. -/
theorem listDeployments_ids (h : DeploymentsKeyed s.store) :
    (s.store.listDeployments.map (·.id)).Nodup := by
  have hperm : (s.store.listDeployments.map (·.id)).Perm
      (s.store.deployments.entries.map Prod.fst) := by
    refine (List.Perm.map _ (mergeSort_perm _ _)).trans ?_
    rw [Dict.values, map_map]
    refine List.Perm.of_eq (map_congr_left ?_)
    intro entry hentry
    exact h _ _ (get?_eq_some_iff.mpr hentry)
  exact hperm.nodup_iff.mpr s.store.deployments.nodup

theorem exec_answers (hgood : Consistent modeOf s) (hknown : Known modeOf call k s)
    (hrequire : Required sha256 modeOf k (.act op)) (hexec : op.exec modeOf s answer s') :
    Answers modeOf k (.act op) answer := by
  obtain ⟨-, hrequire⟩ := hrequire
  cases op with
  | prepareAdoption => exact hexec.2
  | getOperation key =>
    refine ⟨?_, ?_⟩
    · intro stored hstored
      rw [hexec.2]
      exact hknown.guarded hrequire hstored
    · intro operation hoperation
      rw [hexec.2] at hoperation
      exact ⟨hgood.log.keys key operation hoperation, hgood.log.receipts key operation hoperation⟩
  | insertOperation =>
    intro hstored
    rw [hexec.1, Dict.contains, hknown.guarded hrequire.1 hstored]
    rfl
  | applyLatch operation request now =>
    intro saved hsaved
    rcases s.applyLatch_cases operation request now with
      ⟨failure, hrun⟩ | ⟨_, hrun⟩ | ⟨_, _, inhibition, after, hrun, -⟩
    · exact absurd (hsaved.symm.trans (Prod.mk.inj (hexec.trans hrun)).1) (by simp)
    · exact .inl (Except.ok.inj (hsaved.symm.trans (Prod.mk.inj (hexec.trans hrun)).1))
    · exact .inr ⟨inhibition,
        Except.ok.inj (hsaved.symm.trans (Prod.mk.inj (hexec.trans hrun)).1)⟩
  | deploymentRow deploymentId =>
    intro row hrow
    rw [hexec.2] at hrow
    exact hgood.rows.modes deploymentId row hrow
  | getDeployment =>
    intro snapshot hsnapshot
    rw [hexec.2] at hsnapshot
    have hrow := (MemoryStore.getDeployment_ok hsnapshot).1
    exact ⟨hgood.rows.keyed _ _ hrow, hgood.rows.modes _ _ hrow⟩
  | listDeployments =>
    rw [show answer = _ from hexec.2]
    exact listDeployments_ids hgood.rows.keyed
  | _ => trivial

/-- What a call knows outlives any step that leaves its operation, its latch and the rows. -/
theorem Known.keep (h : Known modeOf call k s)
    (hoperations : ∀ key, FleetLock.operation key ∈ k.held →
      s'.operations.get? key = s.operations.get? key)
    (hinhibited : FleetLock.latch ∈ k.held → s'.inhibited = s.inhibited)
    (hrows : ∀ id, (s.store.deployments.get? id).isSome → (s'.store.deployments.get? id).isSome) :
    Known modeOf call k s' := by
  refine ⟨h.mine, h.exempt, h.inserts, ?_, ?_, ?_⟩
  · intro stored hstored
    obtain ⟨key, hkey, hheld, hget⟩ := h.stored stored hstored
    exact ⟨key, hkey, hheld, (hoperations key hheld).trans hget⟩
  · intro mode hmode
    obtain ⟨hheld, hclear⟩ := h.clear mode hmode
    refine ⟨hheld, ?_⟩
    rw [hinhibited hheld]
    exact hclear
  · intro id hid
    exact hrows id (h.booked id hid)

theorem Known.put (h : Known modeOf call k s) {operation : FleetOperation} (hguards : k.Guards key)
    (hset : s'.operations = s.operations.set key operation)
    (hinhibited : s'.inhibited = s.inhibited)
    (hrows : ∀ id, (s.store.deployments.get? id).isSome → (s'.store.deployments.get? id).isSome) :
    Known modeOf call { k with stored := some (some operation) } s' := by
  refine ⟨h.mine, h.exempt, h.inserts, ?_, ?_, ?_⟩
  · intro stored hstored
    rw [← Option.some.inj hstored]
    refine ⟨key, h.mine ▸ hguards.1, hguards.2.1, ?_⟩
    rw [hset, get?_set_self]
  · rw [hinhibited]
    exact h.clear
  · intro id hid
    exact hrows id (h.booked id hid)

theorem exec_learned (hgood : Consistent modeOf s) (hknown : Known modeOf call k s)
    (hrequire : Required sha256 modeOf k (.act op)) (hexec : op.exec modeOf s answer s') :
    Known modeOf call (learned k (.act op) answer) s' := by
  have hframed := exec_framed hrequire hexec
  have hrows := (hframed.rows hgood.rows).2
  obtain ⟨-, hrequire⟩ := hrequire
  cases op with
  | now | uuid7 | appendAudit => exact hexec ▸ hknown
  | setModes modes inhibited now =>
    obtain ⟨hstore, hoperations, -, -⟩ := s.setModes_frame modes inhibited now
    rw [← hexec.1] at hstore hoperations
    refine ⟨hknown.mine, hknown.exempt, hknown.inserts, ?_, fun _ h => absurd h (by simp [learned]), ?_⟩
    · rw [hoperations]
      exact hknown.stored
    · rw [hstore]
      exact hknown.booked
  | raiseIfInhibited mode action =>
    rw [hexec.1]
    cases answer with
    | error => exact hknown
    | ok value =>
      refine ⟨hknown.mine, hknown.exempt, hknown.inserts, hknown.stored, ?_, hknown.booked⟩
      intro mode' hmode
      obtain rfl : mode = mode' := Option.some.inj hmode
      refine ⟨hrequire, ?_⟩
      have hclear : Except.ok value = s.raiseIfInhibited mode action := hexec.2
      unfold FleetState.raiseIfInhibited at hclear
      split at hclear
      · cases hclear
      next hopen => simpa using hopen
  | getOperation key =>
    rw [hexec.1]
    refine ⟨hknown.mine, hknown.exempt, hknown.inserts, ?_, hknown.clear, hknown.booked⟩
    intro stored hstored
    rw [← Option.some.inj hstored]
    exact ⟨key, hknown.mine ▸ hrequire.1, hrequire.2.1, hexec.2.symm⟩
  | insertOperation operation =>
    obtain ⟨-, hs'⟩ := hexec
    cases answer with
    | false => exact hs' ▸ hknown
    | true =>
      rw [show s' = s.putOperation operation from hs']
      exact hknown.put hrequire.1 rfl rfl (fun _ => id)
  | saveOperation operation =>
    rw [show s' = s.putOperation operation from hexec]
    exact hknown.put hrequire.1 rfl rfl (fun _ => id)
  | applyLatch operation request now =>
    obtain ⟨hguards, hstored, -, -⟩ := hrequire
    rcases s.applyLatch_cases operation request now with
      ⟨failure, hrun⟩ | ⟨_, hrun⟩ | ⟨_, _, inhibition, after, hrun, hstore, hset, -, -⟩
    · cases hexec.trans hrun
      exact hknown
    · cases hexec.trans hrun
      refine ⟨hknown.mine, hknown.exempt, hknown.inserts, ?_, fun _ h => absurd h (by simp [learned]),
        hknown.booked⟩
      intro stored hafter
      exact hknown.stored stored (hstored.trans hafter)
    · cases hexec.trans hrun
      refine ⟨hknown.mine, hknown.exempt, hknown.inserts, ?_, fun _ h => absurd h (by simp [learned]), ?_⟩
      · intro stored hafter
        rw [← Option.some.inj hafter]
        refine ⟨operation.idempotencyKey, hknown.mine ▸ hguards.1, hguards.2.1, ?_⟩
        rw [hset, get?_set_self]
      · rw [hstore]
        exact hknown.booked
  | saveTarget updated expectedRevision saved =>
    obtain ⟨hguards, -⟩ := hrequire
    rcases s.saveTarget_cases updated expectedRevision saved with
      ⟨failure, hrun⟩ | ⟨_, hrun⟩ | ⟨row, current, store, -, -, -, -, -, hrun⟩
    · cases hexec.trans hrun
      exact hknown
    · cases hexec.trans hrun
      exact hknown.put hguards rfl rfl (fun _ => id)
    · cases hexec.trans hrun
      exact hknown.put hguards rfl rfl hrows
  | deploymentRow deploymentId =>
    rw [hexec.1]
    cases answer with
    | none => exact hknown
    | some =>
      refine ⟨hknown.mine, hknown.exempt, hknown.inserts, hknown.stored, hknown.clear, ?_⟩
      intro id hid
      obtain rfl : deploymentId = id := Option.some.inj hid
      rw [← hexec.2]
      rfl
  | insertDeployment deployment =>
    rw [show s' = { s with store := s.store.createDeployment deployment } from hexec] at hrows ⊢
    exact hknown.keep (fun _ _ => rfl) (fun _ => rfl) hrows
  | insertLeasedIntent =>
    obtain ⟨store, -, hs'⟩ := hexec
    rw [hs'] at hrows ⊢
    exact hknown.keep (fun _ _ => rfl) (fun _ => rfl) hrows
  | store call =>
    rw [show s' = { s with store := call.run s.store } from hexec] at hrows ⊢
    exact hknown.keep (fun _ _ => rfl) (fun _ => rfl) hrows
  | _ => exact hexec.1 ▸ hknown

/-- The regime survives every step of every call, and every other client's write. -/
theorem fleetRegime_sound : (fleetRegime sha256 modeOf).Sound (FleetOp.exec modeOf)
    (fun s call s' => RecordWrite modeOf call ∧ s' = { s with store := call.run s.store }) where
  ordered k lock hrequire l hl := hrequire.2 l hl
  acquired k lock l := Set.mem_insert_iff
  released k lock l := by
    show l ∈ k.held \ {lock} ↔ _
    rw [Set.mem_sdiff, Set.mem_singleton_iff, and_comm]
    rfl
  releasing k lock hrequire := hrequire
  acted k op answer l := by
    show l ∈ (learned k (.act op) answer).held ↔ l ∈ k.held
    rw [learned_act_held]
  locking k lock := ⟨trivial, trivial⟩
  acquire call k s lock hinv hrequire := by
    refine ⟨hinv.mine, fun h => absurd (hinv.mine ▸ h) hrequire.1, hinv.inserts, ?_, ?_,
      hinv.booked⟩
    · intro stored hstored
      obtain ⟨key, hkey, hheld, hget⟩ := hinv.stored stored hstored
      exact ⟨key, hkey, Set.mem_insert_of_mem _ hheld, hget⟩
    · intro mode hmode
      obtain ⟨hheld, hclear⟩ := hinv.clear mode hmode
      exact ⟨Set.mem_insert_of_mem _ hheld, hclear⟩
  release call k s lock hinv := by
    refine ⟨hinv.mine, ?_, hinv.inserts, ?_, ?_, hinv.booked⟩
    · intro h
      show k.held \ {lock} = ∅
      rw [hinv.exempt h, Set.empty_sdiff]
    · intro stored hstored
      have hstored' : (if lock = .latch then k.stored else none) = some stored := hstored
      obtain ⟨hlatch, hstored'⟩ := of_ite_ne_else hstored' nofun
      obtain ⟨key, hkey, hheld, hget⟩ := hinv.stored stored hstored'
      refine ⟨key, hkey, ⟨hheld, ?_⟩, hget⟩
      rw [hlatch]
      simp
    · intro mode hmode
      have hmode' : (if lock = .latch then none else k.clear) = some mode := hmode
      obtain ⟨hlatch, hmode'⟩ := of_ite_ne hmode' nofun
      obtain ⟨hheld, hclear⟩ := hinv.clear mode hmode'
      exact ⟨⟨hheld, Ne.symm hlatch⟩, hclear⟩
  own call k s op answer s' hgood hinv hrequire hexec :=
    ⟨⟨((exec_framed hrequire hexec).rows hgood.rows).1, exec_log hgood.log hinv hrequire hexec⟩,
      exec_answers hgood hinv hrequire hexec, exec_learned hgood hinv hrequire hexec⟩
  others call k call' k' s op answer s' hgood hinv hinv' hdisjoint hrequire hexec := by
    have hframed := exec_framed hrequire hexec
    exact hinv.keep (fun key hkey => hframed.operations key (hdisjoint _ hkey))
      (fun hlatch => hframed.inhibited (hdisjoint _ hlatch)) (hframed.rows hgood.rows).2
  other s call s' hgood henv := by
    obtain ⟨hrecord, rfl⟩ := henv
    obtain ⟨hrows, hpresent⟩ := hgood.rows.run hrecord
    refine ⟨⟨hrows, hgood.log.frame rfl rfl rfl⟩, ?_⟩
    intro call k hinv
    exact hinv.keep (fun _ _ => rfl) (fun _ => rfl) hpresent

end Thytrader.FleetControl
