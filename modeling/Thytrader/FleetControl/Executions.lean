import Thytrader.FleetControl.LockOrder

/-!
# Executions keep the lock order

`execute_fleet` under its operation guard: every write of the operation continues what is stored,
with one receipt for each confirmed book, whatever fails or is retried.
-/

namespace Thytrader.FleetControl

open Trading Lib Execution MarketData List Follows FleetCall FleetLock FleetOperation

variable {k : Knowledge} {raised : Knowledge → Prop} {expected : ExpectedTarget}

/-- What an execution knows between two store calls: what is stored under its key. -/
def guarded (call : FleetCall) (key : String) (stored : Option (Option FleetOperation)) :
    Knowledge := { call, held := {.operation key}, stored }

theorem FleetCall.not_exempt {call : FleetCall} {key : String} (hkey : call.key = some key) :
    ¬ call.Exempt := by
  rintro ⟨fence, intent, rfl, -⟩
  exact absurd hkey (by simp [FleetCall.key])

/-- Freeing the latch forgets the mode seen admitted. -/
theorem learned_free_latch {held : Set FleetLock} (hopen : latch ∉ held)
    (hheld : k.held = insert .latch held) :
    learned k (.release .latch) () = { k with held, clear := none } := by
  simp only [learned, ↓reduceIte, hheld, Set.insert_sdiff_self_of_notMem hopen]

variable {sha256 : String → String} {modeOf : Uuid → DeploymentMode} {call : FleetCall}
  {key : String} {stored : Option (Option FleetOperation)}

theorem follows_latched {k : Knowledge} {op : FleetOp} {post : Knowledge → op.Answer → Prop}
    {raised : Knowledge → Prop} (hexempt : ¬ k.call.Exempt)
    (hrank : ∀ l ∈ k.held, l.rank < latch.rank)
    (hrequire : Required sha256 modeOf { k with held := insert .latch k.held } (.act op))
    (hpost : ∀ answer, Answers modeOf { k with held := insert .latch k.held } (.act op) answer →
      post { learned { k with held := insert .latch k.held } (.act op) answer with
        held := k.held, clear := none } answer) :
    Follows (fleetRegime sha256 modeOf).protocol k (latched op) post raised := by
  have hopen : latch ∉ k.held := fun h => absurd (hrank _ h) (Nat.lt_irrefl _)
  refine Follows.withLock ⟨hexempt, hrank⟩ (Follows.perform hrequire ?_)
  intro answer hanswer
  have hheld : (learned { k with held := insert .latch k.held } (.act op) answer).held =
      insert .latch k.held := learned_act_held _ _ _
  refine ⟨?_, ?_⟩
  · show latch ∈ (learned { k with held := insert .latch k.held } (.act op) answer).held
    rw [hheld]
    exact Set.mem_insert _ _
  · show post (learned (learned { k with held := insert .latch k.held } (.act op) answer)
      (.release .latch) ()) answer
    rw [learned_free_latch hopen hheld]
    exact hpost answer hanswer

theorem guarded_rank : ∀ l ∈ (guarded call key stored).held, l.rank < latch.rank := by
  rintro l rfl
  exact Nat.zero_lt_one

theorem guarded_guards (hkey : call.key = some key) :
    ({ guarded call key stored with held := insert .latch (guarded call key stored).held } :
      Knowledge).Guards key :=
  ⟨hkey, Set.mem_insert_of_mem _ rfl, Set.mem_insert _ _⟩

/-! ## The fleet store -/

section

variable (hkey : call.key = some key)
include hkey

theorem follows_readInhibition :
    Follows (fleetRegime sha256 modeOf).protocol (guarded call key stored) readInhibition
      (fun k _ => k = guarded call key stored) raised :=
  follows_latched (not_exempt hkey) guarded_rank
    ⟨fun h => absurd h (not_exempt hkey), Set.mem_insert _ _⟩ (fun _ _ => rfl)

theorem follows_getOperation :
    Follows (fleetRegime sha256 modeOf).protocol (guarded call key stored) (getOperation key)
      (fun k answer => k = guarded call key (some answer) ∧
        (∀ known, stored = some known → answer = known) ∧
        ∀ operation, answer = some operation →
          operation.idempotencyKey = key ∧ operation.receipts.Nodup) raised :=
  follows_latched (not_exempt hkey) guarded_rank
    ⟨fun h => absurd h (not_exempt hkey), guarded_guards hkey⟩
    (fun _ hanswer => ⟨rfl, hanswer⟩)

variable {operation : FleetOperation}

theorem follows_insertOperation (hoperation : operation.idempotencyKey = key)
    (htargets : operation.targets = []) (hlatch : operation.latchApplied = false) :
    Follows (fleetRegime sha256 modeOf).protocol (guarded call key (some none))
      (insertOperation operation)
      (fun k inserted => inserted = true ∧ k = guarded call key (some (some operation))) raised := by
  refine follows_latched (not_exempt hkey) guarded_rank
    ⟨fun h => absurd h (not_exempt hkey), ?_, rfl, htargets, hlatch⟩ ?_
  · rw [hoperation]
    exact guarded_guards hkey
  · intro answer hanswer
    obtain rfl : answer = true := hanswer rfl
    exact ⟨rfl, rfl⟩

theorem follows_saveOperation {before : FleetOperation}
    (hoperation : operation.idempotencyKey = key) (hprogress : Progress before operation)
    (hlatch : operation.latchApplied = before.latchApplied) :
    Follows (fleetRegime sha256 modeOf).protocol (guarded call key (some (some before)))
      (saveOperation operation)
      (fun k _ => k = guarded call key (some (some operation))) raised := by
  refine follows_latched (not_exempt hkey) guarded_rank
    ⟨fun h => absurd h (not_exempt hkey), ?_, before, rfl, hprogress, hlatch⟩
    (fun _ _ => rfl)
  rw [hoperation]
  exact guarded_guards hkey

end

/-! ## Targets -/

/-- The operation a call carries until it completes. -/
structure Pending (sha256 : String → String) (call : FleetCall) (key : String)
    (request : FleetExecuteRequest) (operation : FleetOperation) : Prop where
  status : operation.status = .pending
  key : operation.idempotencyKey = key
  distinct : operation.receipts.Nodup
  executes : ∃ audited, call = .execute request audited
  fingerprint : operation.requestFingerprint = FleetControl.fingerprint sha256 request

variable {request : FleetExecuteRequest} {operation : FleetOperation}

theorem Pending.append (h : Pending sha256 call key request operation) {result : TargetResult}
    (hfresh : result.deploymentId ∉ operation.receipts) (now : Time) :
    Progress operation
      { operation with targets := operation.targets ++ [result], updatedAt := now } ∧
    Pending sha256 call key request
      { operation with targets := operation.targets ++ [result], updatedAt := now } := by
  have hdistinct : (receipts
      { operation with targets := operation.targets ++ [result], updatedAt := now }).Nodup := by
    rw [receipts, map_append, nodup_append]
    refine ⟨h.distinct, by simp, ?_⟩
    rintro id hid id' hid' rfl
    rw [map_singleton, mem_singleton] at hid'
    exact hfresh (hid' ▸ hid)
  exact ⟨⟨h.status, rfl, rfl, prefix_append _ _, hdistinct, id⟩,
    ⟨h.status, h.key, hdistinct, h.executes, h.fingerprint⟩⟩

/-- What recording one target leaves: the operation, perhaps with that target's receipt. -/
def Recorded (sha256 : String → String) (call : FleetCall) (key : String)
    (request : FleetExecuteRequest) (before : FleetOperation) (ids : List Uuid) (k : Knowledge)
    (after : FleetOperation) : Prop :=
  k = guarded call key (some (some after)) ∧ Pending sha256 call key request after ∧
    ∀ id ∈ after.receipts, id ∈ before.receipts ∨ id ∈ ids

/-- `record_target` writes the command and its receipt, or leaves what is stored. -/
theorem follows_storeTarget (hkey : call.key = some key)
    (hpending : Pending sha256 call key request operation)
    (hexpected : expected ∈ request.expectedTargets)
    (hfresh : expected.deploymentId ∉ operation.receipts) (now : Time) :
    Follows (fleetRegime sha256 modeOf).protocol (guarded call key (some (some operation)))
      (storeTarget operation expected now)
      (Recorded sha256 call key request operation [expected.deploymentId])
      (fun k => k = guarded call key (some (some operation))) := by
  have hopen : latch ∉ ({.operation key} : Set FleetLock) := by simp
  have hexempt := not_exempt hkey
  -- every way out frees the latch with what the body left stored
  have hfree : ∀ stored, learned { guarded call key stored with
      held := insert .latch {.operation key} } (.release .latch) () = guarded call key stored :=
    fun stored => learned_free_latch hopen rfl
  refine Follows.withLock ⟨hexempt, guarded_rank⟩ ?_
  let inside : Knowledge :=
    { guarded call key (some (some operation)) with held := insert .latch {.operation key} }
  refine perform_bind ⟨fun h => absurd h hexempt, trivial⟩ (fun read hread => ?_)
  change Follows _ inside _ _ _
  cases read with
  | error => exact ⟨Set.mem_insert _ _, hfree _⟩
  | ok snapshot =>
    obtain ⟨hid, hmode⟩ := hread snapshot rfl
    obtain ⟨htarget, hupdated⟩ :=
      @confirmedCommand_target snapshot.deployment expected operation.action operation.mode now hid
    obtain ⟨hprogress, hnext⟩ := hpending.append (htarget ▸ hfresh) now
    refine perform_bind ⟨fun h => absurd h hexempt, ?_⟩ (fun written hwritten => ?_)
    · refine ⟨hpending.key ▸ guarded_guards hkey, operation, rfl, hprogress, rfl, ?_⟩
      intro row hrow
      obtain ⟨hrowId, -, hrowMode, hstatus⟩ := hupdated row hrow
      refine ⟨?_, hrowId ▸ hfresh, ?_, request, ⟨hpending.executes, hpending.fingerprint⟩, ?_⟩
      · rw [hrowMode, hmode, hrowId]
      · exact ⟨_, mem_append_right _ (mem_singleton_self _), htarget.trans hrowId.symm, hstatus⟩
      · rw [hrowId]
        exact hexpected
    · cases written with
      | error => exact ⟨Set.mem_insert _ _, hfree _⟩
      | ok =>
        refine ⟨Set.mem_insert _ _, hfree _, hnext, ?_⟩
        intro id hid
        rw [receipts, map_append, mem_append] at hid
        rcases hid with hold | hnew
        · exact .inl hold
        · right
          rw [map_singleton, htarget] at hnew
          exact hnew

/-- An execution between two store calls. -/
def Between (call : FleetCall) (key : String) (k : Knowledge) : Prop :=
  ∃ stored, k = guarded call key stored

section

variable (hkey : call.key = some key) (hpending : Pending sha256 call key request operation)
include hkey hpending

theorem follows_recordFailure (hfresh : expected.deploymentId ∉ operation.receipts)
    (outcome : FleetTargetStatus) (detail : String) :
    Follows (fleetRegime sha256 modeOf).protocol (guarded call key (some (some operation)))
      (recordFailure operation expected outcome detail)
      (Recorded sha256 call key request operation [expected.deploymentId]) (Between call key) := by
  unfold recordFailure
  rw [hpending.key]
  refine Follows.bind (follows_getOperation hkey) ?_
  rintro k answer ⟨rfl, hknown, -⟩
  obtain rfl : answer = some operation := hknown _ rfl
  dsimp only
  split
  next hany =>
    obtain ⟨item, hitem, hid⟩ := any_eq_true.mp hany
    exact absurd (mem_map.mpr ⟨item, hitem, of_decide_eq_true hid⟩) hfresh
  · refine perform_bind ⟨fun h => absurd h (not_exempt hkey), trivial⟩
      (fun now _ => ?_)
    obtain ⟨hprogress, hnext⟩ := @Pending.append sha256 call key request operation hpending
      { deploymentId := expected.deploymentId
        expectedRevision := some expected.revision
        status := outcome
        detail
        venueEffect := .none } hfresh now
    refine Follows.bind (follows_saveOperation hkey hnext.key hprogress rfl) ?_
    rintro k _ rfl
    refine ⟨rfl, hnext, ?_⟩
    intro id hid
    rw [receipts, map_append, mem_append] at hid
    exact hid

theorem follows_recordTarget (hexpected : expected ∈ request.expectedTargets)
    (hfresh : expected.deploymentId ∉ operation.receipts) :
    Follows (fleetRegime sha256 modeOf).protocol (guarded call key (some (some operation)))
      (recordTarget operation expected)
      (Recorded sha256 call key request operation [expected.deploymentId]) (Between call key) := by
  refine perform_bind ⟨fun h => absurd h (not_exempt hkey), trivial⟩
    (fun now _ => ?_)
  refine Follows.bind (follows_storeTarget hkey hpending hexpected hfresh now).attempt ?_
  intro k outcome houtcome
  cases outcome with
  | ok => exact houtcome
  | error failure =>
    obtain rfl : k = guarded call key (some (some operation)) := houtcome
    cases failure with
    | conflict detail | leaseTaken detail | storeError detail =>
      exact follows_recordFailure hkey hpending hfresh _ detail
    | _ => exact ⟨_, rfl⟩

end

/-- The loop over the confirmed targets: none still to come has a receipt that was not there at the
start. -/
theorem follows_recordTargets (hkey : call.key = some key) {recorded : List Uuid}
    (targets : List ExpectedTarget) :
    ∀ {operation : FleetOperation}, Pending sha256 call key request operation →
      (targets.map (·.deploymentId)).Nodup → (∀ t ∈ targets, t ∈ request.expectedTargets) →
      (∀ t ∈ targets, t.deploymentId ∉ recorded → t.deploymentId ∉ operation.receipts) →
      Follows (fleetRegime sha256 modeOf).protocol (guarded call key (some (some operation)))
        (recordTargets recorded operation targets)
        (Recorded sha256 call key request operation (targets.map (·.deploymentId)))
        (Between call key) := by
  induction targets with
  | nil =>
    intro operation hpending _ _ _
    exact ⟨rfl, hpending, fun id hid => .inl hid⟩
  | cons _ rest ih =>
    intro operation hpending hdistinct hconfirmed hfresh
    rw [map_cons, nodup_cons] at hdistinct
    have hrest : ∀ t ∈ rest, t ∈ request.expectedTargets :=
      fun t ht => hconfirmed t (mem_cons_of_mem _ ht)
    unfold recordTargets
    split
    · refine (ih hpending hdistinct.2 hrest
        (fun t ht => hfresh t (mem_cons_of_mem _ ht))).mono ?_ (fun _ h => h)
      rintro k after ⟨hk, hafter, hids⟩
      exact ⟨hk, hafter, fun id hid => (hids id hid).imp_right (mem_cons_of_mem _)⟩
    next hnew =>
      refine Follows.bind (follows_recordTarget hkey hpending (hconfirmed _ mem_cons_self)
        (hfresh _ mem_cons_self hnew)) ?_
      rintro k next ⟨rfl, hnext, hnextIds⟩
      refine (ih hnext hdistinct.2 hrest ?_).mono ?_ (fun _ h => h)
      · intro t ht hunrecorded hreceipt
        rcases hnextIds _ hreceipt with hold | hsame
        · exact hfresh t (mem_cons_of_mem _ ht) hunrecorded hold
        · rw [mem_singleton] at hsame
          exact hdistinct.1 (hsame ▸ mem_map_of_mem ht)
      · rintro k after ⟨hk, hafter, hids⟩
        refine ⟨hk, hafter, fun id hid => ?_⟩
        rcases hids id hid with hnext | hrest
        · exact (hnextIds id hnext).imp_right (fun h => by simp_all)
        · exact .inr (mem_cons_of_mem _ hrest)

/-! ## Effects -/

/-- What the effects of a request leave: the operation to finish, over the one that is stored. -/
def Effected (sha256 : String → String) (call : FleetCall) (key : String)
    (request : FleetExecuteRequest) (k : Knowledge) (after : FleetOperation) : Prop :=
  ∃ stored, k = guarded call key (some (some stored)) ∧
    Pending sha256 call key request stored ∧ Progress stored after ∧
    after.latchApplied = stored.latchApplied

theorem scopedRows_ids {rows : List Deployment} (h : (rows.map (·.id)).Nodup)
    (mode : FleetModeScope) : ((scopedRows rows mode).map (·.id)).Nodup := by
  have hperm := (mergeSort_perm (rows.filter (fun row => mode.covers row.mode)) newerRow).map
    (fun row : Deployment => row.id)
  exact hperm.nodup_iff.mpr (h.sublist (filter_sublist.map _))

section

variable (hkey : call.key = some key) (hpending : Pending sha256 call key request operation)
include hkey hpending

theorem follows_applyBooks (hdistinct : (request.expectedTargets.map (·.deploymentId)).Nodup) :
    Follows (fleetRegime sha256 modeOf).protocol (guarded call key (some (some operation)))
      (applyBooks request operation) (Effected sha256 call key request) (Between call key) := by
  refine Follows.bind (follows_recordTargets hkey request.expectedTargets hpending hdistinct
    (fun _ h => h) (fun _ _ h => h)) ?_
  rintro k stored ⟨rfl, hstored, hids⟩
  refine perform_bind ⟨fun h => absurd h (not_exempt hkey), trivial⟩
    (fun rows hrows => ⟨stored, rfl, hstored, ?_, rfl⟩)
  refine ⟨hstored.status, rfl, rfl, prefix_append _ _, ?_, id⟩
  rw [receipts, map_append, nodup_append]
  refine ⟨hstored.distinct, ?_, ?_⟩
  · rw [map_map]
    exact (scopedRows_ids hrows request.mode).sublist (filter_sublist.map _)
  · rintro id hid id' hid' rfl
    rw [map_map] at hid'
    obtain ⟨row, hrow, rfl⟩ := mem_map.mp hid'
    have hunconfirmed := of_decide_eq_true (mem_filter.mp hrow).2
    rcases hids _ hid with hold | hnew
    · exact hunconfirmed.2 hold
    · exact hunconfirmed.1 hnew

theorem follows_applyLatch (hlatches : request.action.latches) (now : Time) :
    Follows (fleetRegime sha256 modeOf).protocol (guarded call key (some (some operation)))
      (applyLatch operation request now) (Effected sha256 call key request) (Between call key) := by
  have hopen : latch ∉ ({.operation key} : Set FleetLock) := by simp
  have hexempt := not_exempt hkey
  refine Follows.withLock ⟨hexempt, guarded_rank⟩ ?_
  refine perform_bind ⟨fun h => absurd h hexempt, ?_⟩ (fun applied happlied => ?_)
  · refine ⟨?_, rfl, hpending.status, ⟨hpending.executes, hpending.fingerprint⟩, hlatches⟩
    rw [hpending.key]
    exact guarded_guards hkey
  · cases applied with
    | error =>
      exact ⟨Set.mem_insert _ _, some (some operation), learned_free_latch hopen rfl⟩
    | ok saved =>
      refine ⟨Set.mem_insert _ _, saved, learned_free_latch hopen rfl, ?_⟩
      obtain rfl | ⟨inhibition, rfl⟩ := happlied saved rfl
      · exact ⟨hpending, ⟨hpending.status, rfl, rfl, prefix_rfl, hpending.distinct, id⟩, rfl⟩
      · have hsaved : Pending sha256 call key request
            { operation with inhibition, latchApplied := true, updatedAt := now } :=
          ⟨hpending.status, hpending.key, hpending.distinct, hpending.executes,
            hpending.fingerprint⟩
        exact ⟨hsaved, ⟨hsaved.status, rfl, rfl, prefix_rfl, hsaved.distinct, id⟩, rfl⟩

theorem follows_applyEffects (hdistinct : (request.expectedTargets.map (·.deploymentId)).Nodup) :
    Follows (fleetRegime sha256 modeOf).protocol (guarded call key (some (some operation)))
      (applyEffects request operation) (Effected sha256 call key request) (Between call key) := by
  unfold applyEffects
  split
  next hlatches =>
    exact perform_bind ⟨fun h => absurd h (not_exempt hkey), trivial⟩
      (fun now _ => follows_applyLatch hkey hpending hlatches now)
  · exact follows_applyBooks hkey hpending hdistinct

end

/-- The audit changes only its own flag. -/
theorem follows_audit (hkey : call.key = some key) (audited : Bool) :
    Follows (fleetRegime sha256 modeOf).protocol (guarded call key stored)
      (audit audited operation)
      (fun k after => k = guarded call key stored ∧
        ∃ auditRecorded, after = { operation with auditRecorded }) raised := by
  unfold audit
  split
  · exact perform_bind ⟨fun h => absurd h (not_exempt hkey), trivial⟩
      (fun recorded _ => ⟨rfl, recorded, rfl⟩)
  · exact ⟨rfl, operation.auditRecorded, rfl⟩

theorem follows_applyPending (hkey : call.key = some key)
    (hpending : Pending sha256 call key request operation)
    (hdistinct : (request.expectedTargets.map (·.deploymentId)).Nodup) (audited : Bool) :
    Follows (fleetRegime sha256 modeOf).protocol (guarded call key (some (some operation)))
      (applyPending request audited operation) (fun k _ => Between call key k)
      (Between call key) := by
  refine Follows.bind (follows_applyEffects hkey hpending hdistinct) ?_
  rintro k after ⟨stored, rfl, hstored, hprogress, hlatch⟩
  refine Follows.bind (follows_readInhibition hkey) ?_
  rintro k _ rfl
  refine perform_bind ⟨fun h => absurd h (not_exempt hkey), trivial⟩
    (fun now _ => ?_)
  refine Follows.bind (follows_audit hkey audited) ?_
  rintro k finished ⟨rfl, recorded, rfl⟩
  refine Follows.bind (follows_saveOperation hkey ?_ ?_ ?_) ?_
  · exact hprogress.key.trans hstored.key
  · exact ⟨hprogress.pending, hprogress.key, hprogress.fingerprint, hprogress.targets,
      hprogress.distinct, hprogress.latch⟩
  · exact hlatch
  · rintro k _ rfl
    exact ⟨_, rfl⟩

/-! ## `execute_fleet` -/

/-- A passed fingerprint check, and its continuation. -/
theorem follows_sameFingerprint {existing : FleetOperation} {f : Unit → FleetProgram FleetOperation}
    {post : Knowledge → FleetOperation → Prop} {print : String} (hraised : raised k)
    (hnext : existing.requestFingerprint = print → Follows (fleetRegime sha256 modeOf).protocol k
      (f ()) post raised) :
    Follows (fleetRegime sha256 modeOf).protocol k
      (Program.ofExcept (requireSameFingerprint existing print) >>= f) post raised := by
  unfold requireSameFingerprint
  split
  · exact hraised
  next hsame => exact hnext (not_not.mp hsame)

section

variable (hkey : call.key = some request.idempotencyKey)
  (hexecutes : ∃ audited, call = .execute request audited)
include hkey hexecutes

theorem follows_insertPending :
    Follows (fleetRegime sha256 modeOf).protocol
      (guarded call request.idempotencyKey (some none)) (insertPending sha256 request)
      (fun k operation => k = guarded call request.idempotencyKey (some (some operation)) ∧
        Pending sha256 call request.idempotencyKey request operation)
      (Between call request.idempotencyKey) := by
  have hexempt := not_exempt hkey
  refine perform_bind ⟨fun h => absurd h hexempt, trivial⟩ (fun now _ => ?_)
  refine Follows.bind (follows_readInhibition hkey) ?_
  rintro k inhibition rfl
  refine perform_bind ⟨fun h => absurd h hexempt, trivial⟩ (fun id _ => ?_)
  refine Follows.bind (follows_insertOperation hkey ?_ ?_ ?_) ?_
  · rfl
  · rfl
  · rfl
  · rintro k inserted ⟨rfl, rfl⟩
    exact ⟨rfl, rfl, rfl, nodup_nil, hexecutes, rfl⟩

theorem follows_executeGuarded (hdistinct : (request.expectedTargets.map (·.deploymentId)).Nodup)
    (audited : Bool) :
    Follows (fleetRegime sha256 modeOf).protocol (guarded call request.idempotencyKey none)
      (executeGuarded sha256 request audited) (fun k _ => Between call request.idempotencyKey k)
      (Between call request.idempotencyKey) := by
  refine Follows.bind (follows_getOperation hkey) ?_
  rintro k answer ⟨rfl, -, hanswer⟩
  cases answer with
  | none =>
    refine Follows.bind (follows_insertPending hkey hexecutes) ?_
    rintro k operation ⟨rfl, hpending⟩
    exact follows_applyPending hkey hpending hdistinct audited
  | some existing =>
    obtain ⟨hexisting, hreceipts⟩ := hanswer existing rfl
    refine follows_sameFingerprint ⟨_, rfl⟩ (fun hprint => ?_)
    split
    · exact ⟨_, rfl⟩
    next hstatus =>
      exact follows_applyPending hkey
        ⟨not_not.mp hstatus, hexisting, hreceipts, hexecutes, hprint⟩ hdistinct audited

end

/-- `execute_fleet` keeps the lock order, and every write of its operation continues it. -/
theorem follows_executeFleet (request : FleetExecuteRequest) (audited : Bool) :
    Follows (fleetRegime sha256 modeOf).protocol { call := .execute request audited, held := ∅ }
      (executeFleet sha256 request audited)
      (fun k _ => (fleetRegime sha256 modeOf).Free k) (fleetRegime sha256 modeOf).Free := by
  have hkey : (execute request audited).key = some request.idempotencyKey := rfl
  have hfree : ∀ k, Between (.execute request audited) request.idempotencyKey k →
      operation request.idempotencyKey ∈ k.held ∧
        (fleetRegime sha256 modeOf).Free
          (learned k (.release (.operation request.idempotencyKey)) ()) := by
    rintro k ⟨stored, rfl⟩
    refine ⟨rfl, fun l hl => ?_⟩
    exact absurd hl.1 hl.2
  unfold executeFleet
  unfold requireRequest
  split
  · exact fun _ => id
  · split
    · exact fun _ => id
    next hdistinct =>
      split
      · exact fun _ => id
      · split
        · exact fun _ => id
        · refine Follows.withLock ⟨not_exempt hkey, fun _ h => absurd h (by simp)⟩ ?_
          have hinside : (fleetRegime sha256 modeOf).protocol.learn
              { call := .execute request audited, held := ∅ }
              (.acquire (.operation request.idempotencyKey)) () =
              guarded (.execute request audited) request.idempotencyKey none := by
            simp only [fleetRegime, learned, guarded, insert_empty_eq]
          rw [hinside]
          exact (follows_executeGuarded hkey ⟨audited, rfl⟩ (not_not.mp hdistinct) audited).mono
            (fun k _ h => hfree k h) hfree

end Thytrader.FleetControl
