import Thytrader.Lib.Transition
import Thytrader.Trading.FillProjection
import Thytrader.Trading.Memory

/-!
# Exactly-once fill economics

Cash moves through `apply_fill_transaction` once per venue fill (`runFills_exactly_once`).
`StoreInv` is what every reachable store keeps: rows sit under their own ids, each venue fill has
exactly one evidence row, and `_fill_keys` lists exactly the recorded venue fills.
`applyFill_effect` is what one call can do from such a store: nothing, or record evidence, or book
one venue fill's cash delta and mark its evidence applied for good.

What the callers promise (`ingest_fill` and the fills they build): a call names
the fill's own deployment, an observed fill carries no applied stamp yet, and a
fill id (a fresh `uuid7`) never names two venue fills. The last is stated with
an assignment `identity` from ids to venue fills.
-/

namespace Thytrader.Trading

open Lib MemoryStore List Dict Option

/-! ## Calls -/

/-- The arguments of one `apply_fill_transaction` call, with its clock reads. -/
structure FillCall where
  deploymentId : Uuid
  fill : Fill
  order : Order
  cooldownBars : Int := 0
  timeframe : Option String := none
  now : Time
  after : Time

def FillCall.run (call : FillCall) (store : MemoryStore) :
    Result (Bool × DeploymentSnapshot) × MemoryStore :=
  store.applyFillTransaction call.deploymentId call.fill call.order call.cooldownBars
    call.timeframe call.now call.after

/-- The call reported `applied=True`. -/
def FillCall.applies (call : FillCall) (store : MemoryStore) : Bool :=
  match (call.run store).1 with
  | .ok (applied, _) => applied
  | .error _ => false

/-- Everything a call can do: raise before it touches the store, answer a duplicate, record evidence
and raise, or write the projection. -/
inductive FillCall.Outcome (call : FillCall) (store : MemoryStore) :
    Result (Bool × DeploymentSnapshot) × MemoryStore → Prop
  | missing {failure : Failure} (hmissing : store.deployments.get? call.deploymentId = none) :
      call.Outcome store (.error failure, store)
  | duplicate {snapshot : DeploymentSnapshot} {existing : Fill}
      (hsnapshot : store.getDeployment call.deploymentId = .ok snapshot)
      (hexisting : snapshot.fills.find? (fun item => item.key = call.fill.key) = some existing)
      (happlied : existing.economicsAppliedAt ≠ none) :
      call.Outcome store (.ok (false, snapshot), store)
  | refused {snapshot : DeploymentSnapshot} {failure : Failure}
      (hsnapshot : store.getDeployment call.deploymentId = .ok snapshot)
      (hpending : ∀ existing, snapshot.fills.find? (fun item => item.key = call.fill.key) =
        some existing → existing.economicsAppliedAt = none) :
      call.Outcome store (.error failure, store.recordEvidence call.fill)
  | projected {snapshot projected read : DeploymentSnapshot} {stamped : Fill}
      (hsnapshot : store.getDeployment call.deploymentId = .ok snapshot)
      (hpending : ∀ existing, snapshot.fills.find? (fun item => item.key = call.fill.key) =
        some existing → existing.economicsAppliedAt = none)
      (hprojected : projectFillEconomics snapshot
        ((snapshot.fills.find? (fun item => item.key = call.fill.key)).getD call.fill) call.order
        call.cooldownBars call.timeframe call.now call.after = .ok (projected, stamped))
      (hread : ((store.recordEvidence call.fill).writeProjection call.deploymentId snapshot
        projected call.fill stamped call.order).getDeployment call.deploymentId = .ok read) :
      call.Outcome store (.ok (true, read), (store.recordEvidence call.fill).writeProjection
        call.deploymentId snapshot projected call.fill stamped call.order)

theorem FillCall.run_outcome (call : FillCall) (store : MemoryStore) :
    call.Outcome store (call.run store) := by
  unfold FillCall.run applyFillTransaction
  split
  next hmissing => exact .missing (getDeployment_error hmissing)
  next snapshot hsnapshot =>
    dsimp only
    split
    next hany =>
      cases hfind : snapshot.fills.find? (fun item => item.key = call.fill.key) with
      | none => simp [hfind] at hany
      | some =>
        rw [hfind] at hany
        exact .duplicate hsnapshot hfind (isSome_iff_ne_none.mp (by simpa using hany))
    next hany =>
      have hpending : ∀ existing, snapshot.fills.find? (fun item => item.key = call.fill.key) =
          some existing → existing.economicsAppliedAt = none := by
        intro existing hfind
        rw [hfind] at hany
        simpa using hany
      split
      · exact .refused hsnapshot hpending
      next projected stamped hprojected =>
        -- the book was there, so it can be read again
        have hrow : ∃ row, ((store.recordEvidence call.fill).writeProjection call.deploymentId
            snapshot projected call.fill stamped call.order).deployments.get? call.deploymentId =
              some row := by
          rw [(writeProjection_fields _ _ _ _ _ _ _).1, recordEvidence_rows, get?_set]
          split
          · exact ⟨_, rfl⟩
          · exact ⟨_, (getDeployment_ok hsnapshot).1⟩
        obtain ⟨row, hrow⟩ := hrow
        obtain ⟨read, hread, -⟩ := getDeployment_of_row hrow
        rw [hread]
        exact .projected hsnapshot hpending hprojected hread

/-- What a caller of `apply_fill_transaction` guarantees. -/
structure FillCall.Promised (identity : Uuid → Uuid × String) (call : FillCall) : Prop where
  owner : call.fill.deploymentId = call.deploymentId
  unstamped : call.fill.economicsAppliedAt = none
  identified : identity call.fill.id = call.fill.key

/-- Every mutating call of the store. Adoption is a composition of these. -/
inductive StoreCall where
  | createDeployment (deployment : Deployment)
  | saveDeployment (deployment : Deployment) (expectedRevision : Option Int)
      (instrumentRuntime : Option InstrumentRuntime)
  | saveBreakerPause (deploymentId : Uuid) (expectedRevision : Int) (detail : String)
      (dailyLossLatched : Bool) (now : Time)
  | acquireWorkerLease (deploymentId : Uuid) (holder : String) (now : Time) (ttl : Duration)
  | insertLeasedIntent (fence : Option (Uuid × String)) (intent : OrderIntent)
  | restoreOrder (order : Order)
  | saveOrder (order : Order)
  | saveFill (fill : Fill)
  | savePosition (position : Option Position) (deploymentId : Uuid) (productId : Option String)
  | saveInstrumentRuntime (runtime : InstrumentRuntime) (deploymentId : Uuid)
  | applyFill (call : FillCall)
  | applyFunding (deploymentId : Uuid) (flows : List FundingCashFlow)
      (expectedRevision : Option Int)

/-- The store after a call, whether it returned or raised. -/
def StoreCall.run (call : StoreCall) (store : MemoryStore) : MemoryStore :=
  match call with
  | .createDeployment deployment => store.createDeployment deployment
  | .saveDeployment deployment expectedRevision instrumentRuntime =>
    (store.saveDeployment deployment expectedRevision instrumentRuntime).2
  | .saveBreakerPause deploymentId expectedRevision detail dailyLossLatched now =>
    (store.saveBreakerPause deploymentId expectedRevision detail dailyLossLatched now).2
  | .acquireWorkerLease deploymentId holder now ttl =>
    (store.acquireWorkerLease deploymentId holder now ttl).2
  | .insertLeasedIntent fence intent => (store.insertLeasedIntent fence intent).2
  | .restoreOrder order => store.restoreOrder order
  | .saveOrder order => (store.saveOrder order).2
  | .saveFill fill => (store.saveFill fill).2
  | .savePosition position deploymentId productId =>
    store.savePosition position deploymentId productId
  | .saveInstrumentRuntime runtime deploymentId => store.saveInstrumentRuntime runtime deploymentId
  | .applyFill call => (call.run store).2
  | .applyFunding deploymentId flows expectedRevision =>
    (store.applyFundingTransaction deploymentId flows expectedRevision).2

/-! ## What a call leaves -/

/-- What a fill call leaves of a store: the store itself, the evidence of a refused projection, or
the projection. -/
inductive FillCall.Leaves (call : FillCall) (store : MemoryStore) : MemoryStore → Prop
  | untouched : call.Leaves store store
  | recorded : call.Leaves store (store.recordEvidence call.fill)
  | projected {snapshot projected : DeploymentSnapshot} {stamped : Fill}
      (hsnapshot : store.getDeployment call.deploymentId = .ok snapshot)
      (hpending : ∀ existing, snapshot.fills.find? (fun item => item.key = call.fill.key) =
        some existing → existing.economicsAppliedAt = none)
      (hprojected : projectFillEconomics snapshot
        ((snapshot.fills.find? (fun item => item.key = call.fill.key)).getD call.fill) call.order
        call.cooldownBars call.timeframe call.now call.after = .ok (projected, stamped)) :
      call.Leaves store ((store.recordEvidence call.fill).writeProjection call.deploymentId snapshot
        projected call.fill stamped call.order)

theorem FillCall.run_leaves (call : FillCall) (store : MemoryStore) :
    call.Leaves store (call.run store).2 := by
  have houtcome := call.run_outcome store
  generalize call.run store = result at houtcome ⊢
  cases houtcome with
  | missing | duplicate => exact .untouched
  | refused => exact .recorded
  | projected hsnapshot hpending hprojected => exact .projected hsnapshot hpending hprojected

theorem FillCall.run_frame (call : FillCall) (store : MemoryStore) :
    (call.run store).2.intents = store.intents ∧ (call.run store).2.funding = store.funding := by
  obtain ⟨-, -, -, hrecorded⟩ := recordEvidence_books store call.fill
  have hleft := call.run_leaves store
  generalize (call.run store).2 = next at hleft ⊢
  cases hleft with
  | untouched => exact ⟨rfl, rfl⟩
  | recorded => exact hrecorded
  | projected =>
    obtain ⟨-, -, -, hintents, hfunding⟩ := writeProjection_fields _ _ _ _ _ _ _
    exact ⟨hintents.trans hrecorded.1, hfunding.trans hrecorded.2⟩

/-- What a call leaves of a store: the store itself, or what the call writes. -/
inductive StoreCall.Leaves (store : MemoryStore) : StoreCall → MemoryStore → Prop
  | refused {call : StoreCall} : Leaves store call store
  | created (deployment : Deployment) :
      Leaves store (.createDeployment deployment) (store.createDeployment deployment)
  | saved {deployment current : Deployment} {expectedRevision : Option Int}
      {instrumentRuntime : Option InstrumentRuntime} {next : MemoryStore}
      (hcurrent : store.deployments.get? deployment.id = some current)
      (hexpected : expectedRevision = none ∨ expectedRevision = some current.revision)
      (hrun : store.saveDeployment deployment expectedRevision instrumentRuntime =
        (.ok (deployment.withRevision (current.revision + 1)), next))
      (hrows : next.deployments = store.deployments.set deployment.id
        (deployment.withRevision (current.revision + 1)))
      (hsame : MemoryStore.SameEvidence store next) :
      Leaves store (.saveDeployment deployment expectedRevision instrumentRuntime) next
  | paused {deploymentId : Uuid} {expectedRevision : Int} {detail : String}
      {dailyLossLatched : Bool} {now : Time} {current : Deployment}
      (hcurrent : store.deployments.get? deploymentId = some current) :
      Leaves store (.saveBreakerPause deploymentId expectedRevision detail dailyLossLatched now)
        { store with
          deployments := store.deployments.set deploymentId
            (breakerPaused current detail dailyLossLatched now) }
  | leased {deploymentId : Uuid} {holder : String} {now : Time} {ttl : Duration}
      {current : Deployment} (hcurrent : store.deployments.get? deploymentId = some current) :
      Leaves store (.acquireWorkerLease deploymentId holder now ttl)
        { store with
          deployments := store.deployments.set deploymentId (leasedRow current holder now ttl) }
  | inserted (fence : Option (Uuid × String)) (intent : OrderIntent) :
      Leaves store (.insertLeasedIntent fence intent)
        { store with intents := store.intents.set intent.id intent }
  | restored (order : Order) : Leaves store (.restoreOrder order) (store.replaceOrder order)
  | ordered (order : Order) (existing : Option Order) :
      Leaves store (.saveOrder order) (store.replaceOrder (withCancelTime order existing))
  | filled (fill : Fill) (hnew : fill.key ∉ store.fillKeys) :
      Leaves store (.saveFill fill)
        { store with
          fills := store.fills.set fill.id fill
          fillKeys := insert fill.key store.fillKeys
          appliedFillKeys :=
            if fill.economicsAppliedAt ≠ none then insert fill.key store.appliedFillKeys
            else store.appliedFillKeys }
  | positioned {position : Option Position} {deploymentId : Uuid} {productId : Option String}
      (positions : Dict (Uuid × String) Position) :
      Leaves store (.savePosition position deploymentId productId)
        { store with positions := positions }
  | runtime (runtime : InstrumentRuntime) (deploymentId : Uuid) :
      Leaves store (.saveInstrumentRuntime runtime deploymentId)
        (store.saveInstrumentRuntime runtime deploymentId)
  | applied (call : FillCall) : Leaves store (.applyFill call) (call.run store).2
  | funded {deploymentId : Uuid} {flows : List FundingCashFlow} {expectedRevision : Option Int}
      {current : Deployment} (hcurrent : store.deployments.get? deploymentId = some current)
      (hown : ∀ flow ∈ store.freshFunding flows, flow.deploymentId = deploymentId) :
      Leaves store (.applyFunding deploymentId flows expectedRevision)
        { store with
          funding := (store.freshFunding flows).foldl (fun rows flow =>
            rows.set (flow.deploymentId, flow.productId, flow.fundingTime) flow) store.funding
          deployments := store.deployments.set deploymentId
            (fundedRow current (store.freshFunding flows)) }

theorem StoreCall.run_leaves (call : StoreCall) (store : MemoryStore) :
    Leaves store call (call.run store) := by
  cases call with
  | createDeployment deployment => exact .created deployment
  | saveDeployment deployment expectedRevision instrumentRuntime =>
    rcases saveDeployment_cases store deployment expectedRevision instrumentRuntime with
      ⟨failure, hrun⟩ | ⟨current, next, hcurrent, hexpected, hrun, hrows, hsame⟩
    · simp only [run, hrun]
      exact .refused
    · have hsaved := hrun
      simp only [run, hrun]
      exact .saved hcurrent hexpected hsaved hrows hsame
  | saveBreakerPause deploymentId expectedRevision detail dailyLossLatched now =>
    rcases saveBreakerPause_cases store deploymentId expectedRevision detail
      dailyLossLatched now with ⟨failure, hrun⟩ | ⟨current, hcurrent, -, hrun⟩
    · simp only [run, hrun]
      exact .refused
    · simp only [run, hrun]
      exact .paused hcurrent
  | acquireWorkerLease deploymentId holder now ttl =>
    rcases acquireWorkerLease_cases store deploymentId holder now ttl with
      ⟨-, hrun⟩ | ⟨current, hcurrent, ⟨-, hrun⟩ | ⟨-, hrun⟩⟩
    · simp only [run, hrun]
      exact .refused
    · simp only [run, hrun]
      exact .refused
    · simp only [run, hrun]
      exact .leased hcurrent
  | insertLeasedIntent fence intent =>
    rcases insertLeasedIntent_cases store fence intent with
      ⟨failure, hrun⟩ | ⟨-, hrun⟩
    · simp only [run, hrun]
      exact .refused
    · simp only [run, hrun]
      exact .inserted fence intent
  | restoreOrder order => exact .restored order
  | saveOrder order => exact .ordered order _
  | saveFill fill =>
    simp only [run, MemoryStore.saveFill]
    split
    · exact .refused
    next hnew => exact .filled fill hnew
  | savePosition position _ productId =>
    cases position with
    | none =>
      cases productId with
      | none | some => exact .positioned _
    | some => exact .positioned _
  | saveInstrumentRuntime runtime deploymentId => exact .runtime runtime deploymentId
  | applyFill call => exact .applied call
  | applyFunding deploymentId flows expectedRevision =>
    rcases applyFundingTransaction_cases store deploymentId flows expectedRevision with
      hrun | ⟨current, hcurrent, ⟨-, hown⟩, hrun⟩
    · simp only [run, hrun]
      exact .refused
    · simp only [run, hrun]
      exact .funded hcurrent hown

/-! ## Promises -/

def StoreCall.Promised (identity : Uuid → Uuid × String) : StoreCall → Prop
  | .saveFill fill => identity fill.id = fill.key
  | .applyFill call => call.Promised identity
  | _ => True

def storeStep (identity : Uuid → Uuid × String) (store : MemoryStore) (call : StoreCall)
    (next : MemoryStore) : Prop :=
  call.Promised identity ∧ next = call.run store

/-- The states an `InMemoryExecutionStore` can reach from empty. -/
def StoreReachable (identity : Uuid → Uuid × String) (store : MemoryStore) : Prop :=
  Reachable (· = MemoryStore.empty) (storeStep identity) store

/-! ## The store invariant -/

/-- Rows under their own ids, one evidence row per recorded venue fill. -/
structure StoreInv (identity : Uuid → Uuid × String) (store : MemoryStore) : Prop where
  deploymentIds : ∀ k d, store.deployments.get? k = some d → d.id = k
  fillIds : ∀ i f, store.fills.get? i = some f → f.id = i ∧ identity i = f.key
  fillKeys : ∀ key, key ∈ store.fillKeys ↔ ∃ i f, store.fills.get? i = some f ∧ f.key = key
  fillUnique : ∀ i j f g, store.fills.get? i = some f → store.fills.get? j = some g →
    f.key = g.key → i = j

def evidence (store : MemoryStore) (key : Uuid × String) : Option Fill :=
  store.fills.values.find? (fun fill => fill.key = key)

def EconomicsApplied (store : MemoryStore) (key : Uuid × String) : Prop :=
  ∃ fill, evidence store key = some fill ∧ fill.economicsAppliedAt ≠ none

def cashOf (store : MemoryStore) (deploymentId : Uuid) : Option Decimal :=
  (store.deployments.get? deploymentId).map (·.cash)

variable {identity : Uuid → Uuid × String} {store : MemoryStore}
variable {key : Uuid × String} {call : FillCall}

theorem evidence_eq_some_iff (hinv : StoreInv identity store) {fill : Fill} :
    evidence store key = some fill ↔ store.fills.get? fill.id = some fill ∧ fill.key = key := by
  unfold evidence
  constructor
  · intro h
    have hkey : fill.key = key := by simpa using find?_some h
    obtain ⟨i, hi⟩ := mem_values_iff.mp (mem_of_find?_eq_some h)
    rw [(hinv.fillIds i fill hi).1]
    exact ⟨hi, hkey⟩
  · rintro ⟨hi, hkey⟩
    cases hf : store.fills.values.find? (fun fill => fill.key = key) with
    | none =>
      rw [find?_eq_none] at hf
      exact absurd (hf fill (mem_values_iff.mpr ⟨_, hi⟩)) (by simp [hkey])
    | some other =>
      have hother : other.key = key := by simpa using find?_some hf
      obtain ⟨j, hj⟩ := mem_values_iff.mp (mem_of_find?_eq_some hf)
      have hji : j = fill.id := hinv.fillUnique j fill.id other fill hj hi (by rw [hother, hkey])
      rw [hji, hi] at hj
      rw [some.inj hj]

theorem evidence_eq_none_iff (hinv : StoreInv identity store) :
    evidence store key = none ↔ key ∉ store.fillKeys := by
  rw [hinv.fillKeys]
  unfold evidence
  rw [find?_eq_none]
  constructor
  · rintro h ⟨i, f, hi, hkey⟩
    exact absurd (h f (mem_values_iff.mpr ⟨i, hi⟩)) (by simp [hkey])
  · intro h fill hfill
    obtain ⟨i, hi⟩ := mem_values_iff.mp hfill
    simp only [decide_eq_true_eq]
    exact fun hkey => h ⟨i, fill, hi, hkey⟩

/-! ## Writing one evidence row -/

section

variable {next : MemoryStore} {fill : Fill}

theorem StoreInv.putFill (hinv : StoreInv identity store) (hid : identity fill.id = fill.key)
    (hown : ∀ g, evidence store fill.key = some g → g.id = fill.id)
    (hfills : next.fills = store.fills.set fill.id fill)
    (hkeys : next.fillKeys = insert fill.key store.fillKeys)
    (hdeployments : ∀ k d, next.deployments.get? k = some d → d.id = k) :
    StoreInv identity next := by
  have hrow : ∀ i f, next.fills.get? i = some f →
      (i = fill.id ∧ f = fill) ∨ (i ≠ fill.id ∧ store.fills.get? i = some f) :=
    fun _ _ => get?_set_cases hfills
  have hkept : ∀ i f, store.fills.get? i = some f → f.key = fill.key → i = fill.id := by
    intro i f hi hkey
    have hf := (hinv.fillIds i f hi).1
    have hev : evidence store fill.key = some f :=
      (evidence_eq_some_iff hinv).mpr ⟨by rw [hf]; exact hi, hkey⟩
    rw [← hf]
    exact hown f hev
  refine ⟨hdeployments, ?_, ?_, ?_⟩
  · intro i f hi
    rcases hrow i f hi with ⟨rfl, rfl⟩ | ⟨_, hi⟩
    · exact ⟨rfl, hid⟩
    · exact hinv.fillIds i f hi
  · intro key
    rw [hkeys, Finset.mem_insert, hinv.fillKeys]
    constructor
    · rintro (rfl | ⟨i, f, hi, hkey⟩)
      · exact ⟨fill.id, fill, by rw [hfills, get?_set_self], rfl⟩
      · by_cases he : i = fill.id
        · -- the row under `fill.id` names the same venue fill, so its key survives
          have hsame : key = fill.key := by
            rw [← hkey, ← hid, ← he]
            exact (hinv.fillIds i f hi).2.symm
          exact ⟨fill.id, fill, by rw [hfills, get?_set_self], hsame.symm⟩
        · exact ⟨i, f, by rw [hfills, get?_set_ne he]; exact hi, hkey⟩
    · rintro ⟨i, f, hi, hkey⟩
      rcases hrow i f hi with ⟨rfl, rfl⟩ | ⟨_, hi⟩
      · exact .inl hkey.symm
      · exact .inr ⟨i, f, hi, hkey⟩
  · intro i j f g hi hj hkey
    rcases hrow i f hi with ⟨rfl, rfl⟩ | ⟨hi', hi⟩
    · rcases hrow j g hj with ⟨rfl, rfl⟩ | ⟨_, hj⟩
      · rfl
      · exact (hkept j g hj hkey.symm).symm
    · rcases hrow j g hj with ⟨rfl, rfl⟩ | ⟨_, hj⟩
      · exact hkept i f hi hkey
      · exact hinv.fillUnique i j f g hi hj hkey

theorem evidence_putFill (hinv : StoreInv identity store) (hnext : StoreInv identity next)
    (hid : identity fill.id = fill.key) (hfills : next.fills = store.fills.set fill.id fill)
    (key : Uuid × String) :
    evidence next key = if key = fill.key then some fill else evidence store key := by
  split
  next he =>
    rw [evidence_eq_some_iff hnext, hfills, get?_set_self]
    exact ⟨rfl, he.symm⟩
  next hne =>
    apply ext
    intro g
    rw [evidence_eq_some_iff hnext, evidence_eq_some_iff hinv, hfills, get?_set]
    constructor
    · rintro ⟨hg, hkey⟩
      split at hg
      · rw [← some.inj hg] at hkey
        exact absurd hkey.symm hne
      · exact ⟨hg, hkey⟩
    · rintro ⟨hg, hkey⟩
      have hne' : g.id ≠ fill.id := by
        intro he
        have := (hinv.fillIds _ _ hg).2
        rw [he, hid, hkey] at this
        exact hne this.symm
      rw [if_neg hne']
      exact ⟨hg, hkey⟩

end

theorem StoreInv.frame {next : MemoryStore} (hinv : StoreInv identity store)
    (hfills : next.fills = store.fills) (hkeys : next.fillKeys = store.fillKeys)
    (hdeployments : ∀ k d, next.deployments.get? k = some d → d.id = k) :
    StoreInv identity next := by
  refine ⟨hdeployments, ?_, ?_, ?_⟩
  · rw [hfills]
    exact hinv.fillIds
  · rw [hfills, hkeys]
    exact hinv.fillKeys
  · rw [hfills]
    exact hinv.fillUnique

theorem StoreInv.setDeployment (hinv : StoreInv identity store) {id : Uuid} {row : Deployment}
    (hrow : row.id = id) (k : Uuid) (d : Deployment)
    (h : (store.deployments.set id row).get? k = some d) : d.id = k :=
  forall_set (P := fun k d => d.id = k) rfl hrow hinv.deploymentIds k d h

theorem existing_eq_evidence {snapshot : DeploymentSnapshot} (hcall : call.Promised identity)
    (hsnapshot : store.getDeployment call.deploymentId = .ok snapshot) :
    snapshot.fills.find? (fun item => item.key = call.fill.key) = evidence store call.fill.key := by
  rw [(getDeployment_ok hsnapshot).2, find?_filter]
  congr 1
  funext item
  by_cases hkey : item.key = call.fill.key
  · have howner : item.deploymentId = call.deploymentId := by
      rw [← hcall.owner]
      exact congrArg Prod.fst hkey
    simp [hkey, howner]
  · simp [hkey]

/-- The first half of a call: evidence for the venue fill exists afterwards. -/
theorem recordEvidence_effect {fill : Fill} (hinv : StoreInv identity store)
    (hid : identity fill.id = fill.key) :
    StoreInv identity (store.recordEvidence fill) ∧
    (store.recordEvidence fill).deployments = store.deployments ∧
    (∀ key, key ≠ fill.key → evidence (store.recordEvidence fill) key = evidence store key) ∧
    evidence (store.recordEvidence fill) fill.key = some ((evidence store fill.key).getD fill) := by
  unfold recordEvidence
  split
  next hmem =>
    refine ⟨hinv, rfl, fun _ _ => rfl, ?_⟩
    cases hev : evidence store fill.key with
    | none => exact absurd hmem ((evidence_eq_none_iff hinv).mp hev)
    | some => rfl
  next hnew =>
    have hnone := (evidence_eq_none_iff hinv).mpr hnew
    have hnext : StoreInv identity
        { store with
          fills := store.fills.set fill.id fill
          fillKeys := insert fill.key store.fillKeys } :=
      hinv.putFill hid (fun g hg => absurd (hnone ▸ hg) (by simp)) rfl rfl hinv.deploymentIds
    have hev := evidence_putFill hinv hnext hid rfl
    refine ⟨hnext, rfl, ?_, ?_⟩
    · intro key hkey
      rw [hev, if_neg hkey]
    · rw [hev, if_pos rfl, hnone]
      rfl

/-! ## The effect of one call -/

/-- What one fill call does to evidence and cash. -/
structure FillEffect (identity : Uuid → Uuid × String) (before after : MemoryStore)
    (call : FillCall) (applied : Bool) : Prop where
  inv : StoreInv identity after
  others : ∀ key, key ≠ call.fill.key → evidence after key = evidence before key
  settled : EconomicsApplied before call.fill.key →
    applied = false ∧ evidence after call.fill.key = evidence before call.fill.key
  unapplied : applied = false →
    (EconomicsApplied after call.fill.key → EconomicsApplied before call.fill.key) ∧
      ∀ id, cashOf after id = cashOf before id
  booked : applied = true → ∃ row, evidence after call.fill.key = some row ∧
    row.economicsAppliedAt ≠ none ∧
      ∀ id, cashOf after id = (cashOf before id).map (fun cash =>
        cash + if call.deploymentId = id then cashDelta row call.order.side else 0)

theorem FillEffect.idle (hinv : StoreInv identity store) (call : FillCall) :
    FillEffect identity store store call false :=
  ⟨hinv, fun _ _ => rfl, fun _ => ⟨rfl, rfl⟩, fun _ => ⟨id, fun _ => rfl⟩, fun h => by simp at h⟩

/-- From a well-formed store a promised call either books nothing or books its venue fill's cash
delta once. -/
theorem applyFill_effect (hinv : StoreInv identity store) (hcall : call.Promised identity) :
    FillEffect identity store (call.run store).2 call (call.applies store) := by
  have houtcome := call.run_outcome store
  unfold FillCall.applies
  generalize call.run store = result at houtcome ⊢
  -- the evidence of a venue fill that is not applied yet
  have hunapplied {snapshot : DeploymentSnapshot}
      (hsnapshot : store.getDeployment call.deploymentId = .ok snapshot)
      (hpending : ∀ existing, snapshot.fills.find? (fun item => item.key = call.fill.key) =
        some existing → existing.economicsAppliedAt = none) :
      ¬ EconomicsApplied store call.fill.key := by
    rintro ⟨row, hrow, happlied⟩
    exact happlied (hpending row (existing_eq_evidence hcall hsnapshot ▸ hrow))
  obtain ⟨hrecorded, hrows, hothers, hown⟩ := recordEvidence_effect hinv hcall.identified
  cases houtcome with
  | missing | duplicate => exact FillEffect.idle hinv call
  | refused hsnapshot hpending =>
    -- the evidence row stays behind, unapplied
    have hnot := hunapplied hsnapshot hpending
    refine ⟨hrecorded, hothers, fun h => absurd h hnot, fun _ => ⟨?_, ?_⟩, fun h => by simp at h⟩
    · rintro ⟨row, hrow, happlied⟩
      rw [hown] at hrow
      have hrow := some.inj hrow
      cases hev : evidence store call.fill.key with
      | none =>
        rw [hev] at hrow
        rw [← hrow] at happlied
        exact absurd hcall.unstamped happlied
      | some existing =>
        rw [hev] at hrow
        exact absurd ⟨existing, hev, by rw [← hrow] at happlied; exact happlied⟩ hnot
    · intro id
      unfold cashOf
      rw [hrows]
  | @projected snapshot projected read stamped hsnapshot hpending hprojected hread =>
    have hnot := hunapplied hsnapshot hpending
    rw [existing_eq_evidence hcall hsnapshot] at hprojected
    have hspec := projectFillEconomics_spec hprojected
    obtain ⟨at_, hstamped⟩ := hspec.stamp
    obtain ⟨hid, hcash, _⟩ := fillProjectionDeployment_fields hspec
    obtain ⟨hdeployments, hfills, hkeys, _, _⟩ := writeProjection_fields
      (store.recordEvidence call.fill) call.deploymentId snapshot projected call.fill stamped
      call.order
    have hsource := (evidence_eq_some_iff hrecorded).mp hown
    have hstampedKey : stamped.key = call.fill.key := by
      rw [hstamped]
      exact hsource.2
    have hstampedId : stamped.id = ((evidence store call.fill.key).getD call.fill).id := by
      rw [hstamped]
    have hstampedIdentity : identity stamped.id = stamped.key := by
      rw [hstampedId, hstampedKey, (hrecorded.fillIds _ _ hsource.1).2]
      exact hsource.2
    have hrow := (getDeployment_ok hsnapshot).1
    have hsnapshotId : snapshot.deployment.id = call.deploymentId :=
      hinv.deploymentIds _ _ hrow
    generalize hwritten : (store.recordEvidence call.fill).writeProjection call.deploymentId
      snapshot projected call.fill stamped call.order = written at *
    have hstored : ∀ k d, written.deployments.get? k = some d → d.id = k := by
      rw [hdeployments]
      exact hrecorded.setDeployment rfl
    have hnext : StoreInv identity written := by
      refine hrecorded.putFill hstampedIdentity ?_ hfills ?_ hstored
      · intro g hg
        rw [hstampedKey, hown] at hg
        rw [hstampedId, some.inj hg]
      · rw [hkeys, Finset.insert_eq_of_mem]
        rw [hstampedKey]
        by_contra hmem
        rw [(evidence_eq_none_iff hrecorded).mpr hmem] at hown
        cases hown
    have hev := evidence_putFill hrecorded hnext hstampedIdentity hfills
    refine ⟨hnext, ?_, fun h => absurd h hnot, fun h => by simp at h, fun _ => ?_⟩
    · intro key hkey
      rw [hev, hstampedKey, if_neg hkey]
      exact hothers key hkey
    · refine ⟨stamped, by rw [hev, hstampedKey, if_pos rfl], by rw [hstamped]; simp, ?_⟩
      intro id
      have hdelta : cashDelta stamped call.order.side =
          cashDelta ((evidence store call.fill.key).getD call.fill) call.order.side := by
        rw [hstamped]
        rfl
      unfold cashOf
      rw [hdeployments, hid, hsnapshotId, hrows, get?_set]
      by_cases he : id = call.deploymentId
      · rw [if_pos he, he, hrow]
        simp only [Option.map_some, if_true, hdelta]
        exact congrArg some hcash
      · rw [if_neg he]
        simp only [if_neg (Ne.symm he), add_zero, Option.map_id']

/-- A call writes at most its own deployment row, one revision on, and exactly
when it reports `applied=True`. -/
theorem applyFill_row (call : FillCall)
    (hids : ∀ k d, store.deployments.get? k = some d → d.id = k) :
    (call.applies store = false ∧ (call.run store).2.deployments = store.deployments) ∨
    ∃ current row, call.applies store = true ∧
      store.deployments.get? call.deploymentId = some current ∧
      row.id = call.deploymentId ∧ row.revision = current.revision + 1 ∧
      (row.status = current.status ∨ row.status = faultStatus current) ∧
      (call.run store).2.deployments = store.deployments.set call.deploymentId row := by
  have houtcome := call.run_outcome store
  unfold FillCall.applies
  generalize call.run store = result at houtcome ⊢
  have hrecorded := recordEvidence_rows store call.fill
  cases houtcome with
  | missing | duplicate => exact .inl ⟨rfl, rfl⟩
  | refused => exact .inl ⟨rfl, hrecorded⟩
  | @projected snapshot projected _ stamped hsnapshot _ hprojected =>
    have hrow := (getDeployment_ok hsnapshot).1
    have hsnapshotId : snapshot.deployment.id = call.deploymentId := hids _ _ hrow
    have hspec := projectFillEconomics_spec hprojected
    obtain ⟨hid, _, hstatus⟩ := fillProjectionDeployment_fields hspec
    obtain ⟨hdeployments, _⟩ := writeProjection_fields
      (store.recordEvidence call.fill) call.deploymentId snapshot projected call.fill stamped
      call.order
    rw [hid, hsnapshotId, hrecorded] at hdeployments
    refine .inr ⟨snapshot.deployment, _, rfl, hrow, ?_, rfl, ?_, hdeployments⟩
    · show (fillProjectionDeployment snapshot projected).id = _
      rw [hid, hsnapshotId]
    · show (fillProjectionDeployment snapshot projected).status = _ ∨
        (fillProjectionDeployment snapshot projected).status = _
      rw [hstatus]
      exact hspec.status_not_relaxed

/-! ## Every reachable store is well formed -/

theorem storeInv_empty : StoreInv identity MemoryStore.empty := by
  refine ⟨?_, ?_, ?_, ?_⟩
  · intro k d h
    exact absurd h (by simp [MemoryStore.empty])
  · intro i f h
    exact absurd h (by simp [MemoryStore.empty])
  · intro key
    simp [MemoryStore.empty]
  · intro i j f g h
    exact absurd h (by simp [MemoryStore.empty])

theorem StoreCall.run_inv {call : StoreCall} (hinv : StoreInv identity store)
    (hcall : call.Promised identity) : StoreInv identity (call.run store) := by
  have hleft := call.run_leaves store
  generalize call.run store = next at hleft ⊢
  cases hleft with
  | refused => exact hinv
  | created => exact hinv.frame rfl rfl (hinv.setDeployment rfl)
  | saved _ _ _ hrows hsame =>
    exact hinv.frame hsame.fills hsame.fillKeys (by rw [hrows]; exact hinv.setDeployment rfl)
  | paused hcurrent | leased hcurrent | funded hcurrent =>
    have hid := hinv.deploymentIds _ _ hcurrent
    exact hinv.frame rfl rfl (hinv.setDeployment hid)
  | inserted | positioned | runtime => exact hinv.frame rfl rfl hinv.deploymentIds
  | restored order =>
    obtain ⟨hsame, hrows⟩ := replaceOrder_frame store order
    exact hinv.frame hsame.fills hsame.fillKeys (by rw [hrows]; exact hinv.deploymentIds)
  | ordered order existing =>
    obtain ⟨hsame, hrows⟩ := replaceOrder_frame store (withCancelTime order existing)
    exact hinv.frame hsame.fills hsame.fillKeys (by rw [hrows]; exact hinv.deploymentIds)
  | filled _ hnew =>
    have hnone := (evidence_eq_none_iff hinv).mpr hnew
    exact hinv.putFill hcall (fun g hg => absurd (hnone ▸ hg) (by simp)) rfl rfl hinv.deploymentIds
  | applied => exact (applyFill_effect hinv hcall).inv

theorem StoreReachable.inv (h : StoreReachable identity store) : StoreInv identity store := by
  refine Reachable.invariant (StoreInv identity) ?_ ?_ h
  · rintro _ rfl
    exact storeInv_empty
  · rintro before call after hinv ⟨hcall, rfl⟩
    exact StoreCall.run_inv hinv hcall

/-! ## Sequences of calls -/

/-- Run the calls in order: those that reported `applied=True`, and the final store. -/
def runFills (store : MemoryStore) : List FillCall → List FillCall × MemoryStore
  | [] => ([], store)
  | call :: rest =>
    let (applied, final) := runFills (call.run store).2 rest
    (if call.applies store then call :: applied else applied, final)

def bookedDelta (store : MemoryStore) (call : FillCall) : Decimal :=
  match evidence store call.fill.key with
  | some row => cashDelta row call.order.side
  | none => 0

/-- A settled venue fill is never reported again and its evidence never changes. -/
theorem runFills_settled {calls : List FillCall} (hinv : StoreInv identity store)
    (hcalls : ∀ call ∈ calls, call.Promised identity) (hkey : EconomicsApplied store key) :
    key ∉ (runFills store calls).1.map (·.fill.key) ∧
      evidence (runFills store calls).2 key = evidence store key := by
  induction calls generalizing store with
  | nil => simp [runFills]
  | cons call _ ih =>
    have heffect := applyFill_effect hinv (hcalls call (by simp))
    have hstep : evidence (call.run store).2 key = evidence store key := by
      by_cases he : key = call.fill.key
      · rw [he] at hkey ⊢
        exact (heffect.settled hkey).2
      · exact heffect.others key he
    have hnext : EconomicsApplied (call.run store).2 key := by
      obtain ⟨row, hrow, happlied⟩ := hkey
      exact ⟨row, by rw [hstep, hrow], happlied⟩
    obtain ⟨hnot, hkept⟩ := ih heffect.inv (fun c hc => hcalls c (by simp [hc])) hnext
    refine ⟨?_, by rw [← hstep]; exact hkept⟩
    simp only [runFills]
    split
    next happlies =>
      rw [map_cons, mem_cons, not_or]
      refine ⟨?_, hnot⟩
      intro he
      rw [he] at hkey
      exact absurd happlies (by rw [(heffect.settled hkey).1]; simp)
    · exact hnot

/-- From any reachable store, over any sequence of fill transactions: no venue fill is reported
applied twice, the reported ones are those whose economics became applied, and each deployment's
cash moves by the sum of their stored evidence's cash deltas. -/
theorem runFills_exactly_once (hreach : StoreReachable identity store) {calls : List FillCall}
    (hcalls : ∀ call ∈ calls, call.Promised identity) :
    ((runFills store calls).1.map (·.fill.key)).Nodup ∧
    (∀ key, key ∈ (runFills store calls).1.map (·.fill.key) ↔
      EconomicsApplied (runFills store calls).2 key ∧ ¬ EconomicsApplied store key) ∧
    ∀ id, cashOf (runFills store calls).2 id = (cashOf store id).map (fun cash =>
      cash + (((runFills store calls).1.filter (fun call => call.deploymentId = id)).map
        (bookedDelta (runFills store calls).2)).sum) := by
  have hinv := hreach.inv
  clear hreach
  induction calls generalizing store with
  | nil =>
    refine ⟨by simp [runFills], ?_, ?_⟩
    · intro key
      simp only [runFills, map_nil, not_mem_nil, false_iff, not_and, not_not]
      exact id
    · intro id
      simp [runFills]
  | cons call rest ih =>
    have hrest : ∀ c ∈ rest, c.Promised identity := fun c hc => hcalls c (by simp [hc])
    have heffect := applyFill_effect hinv (hcalls call (by simp))
    obtain ⟨hnodup, hiff, hcash⟩ := ih hrest heffect.inv
    cases happlies : call.applies store with
    | false =>
      obtain ⟨hunapplied, hsame⟩ := heffect.unapplied happlies
      have hbefore : ∀ key, EconomicsApplied (call.run store).2 key ↔
          EconomicsApplied store key := by
        intro key
        by_cases he : key = call.fill.key
        · rw [he]
          refine ⟨hunapplied, fun h => ?_⟩
          obtain ⟨row, hrow, happlied⟩ := h
          exact ⟨row, by rw [(heffect.settled ⟨row, hrow, happlied⟩).2, hrow], happlied⟩
        · unfold EconomicsApplied
          rw [heffect.others key he]
      simp only [runFills, happlies, Bool.false_eq_true, if_false]
      refine ⟨hnodup, ?_, ?_⟩
      · intro key
        rw [hiff key, hbefore key]
      · intro id
        rw [hcash id, hsame id]
    | true =>
      obtain ⟨row, hrow, happlied, hbooked⟩ := heffect.booked happlies
      have hnot : ¬ EconomicsApplied store call.fill.key := by
        intro h
        rw [(heffect.settled h).1] at happlies
        cases happlies
      obtain ⟨hfresh, hkept⟩ := runFills_settled heffect.inv hrest ⟨row, hrow, happlied⟩
      simp only [runFills, happlies, if_true]
      refine ⟨?_, ?_, ?_⟩
      · rw [map_cons, nodup_cons]
        exact ⟨hfresh, hnodup⟩
      · intro key
        rw [map_cons, mem_cons]
        by_cases he : key = call.fill.key
        · rw [he]
          refine ⟨fun _ => ⟨⟨row, by rw [hkept, hrow], happlied⟩, hnot⟩, fun _ => .inl rfl⟩
        · rw [hiff key]
          unfold EconomicsApplied
          rw [heffect.others key he]
          exact ⟨fun h => h.resolve_left he, .inr⟩
      · intro id
        have hown : bookedDelta (runFills (call.run store).2 rest).2 call =
            cashDelta row call.order.side := by
          unfold bookedDelta
          rw [hkept, hrow]
        rw [hcash id, hbooked id, Option.map_map]
        congr 1
        funext cash
        by_cases he : call.deploymentId = id
        · simp only [Function.comp_apply, filter_cons, he, decide_true, if_true,
            map_cons, sum_cons, hown]
          ring
        · simp only [Function.comp_apply, filter_cons, he, decide_false, Bool.false_eq_true,
            if_false, add_zero]

def sampleFillCalls : List FillCall :=
  [{ deploymentId := 1, fill := sampleFill 10 "v1" 2, order := sampleOrder 5 .buy, now := 7,
      after := 7 },
    { deploymentId := 1, fill := sampleFill 11 "v1" 2, order := sampleOrder 5 .buy, now := 8,
      after := 8 },
    { deploymentId := 1, fill := sampleFill 12 "v2" 1, order := sampleOrder 6 .sell, now := 9,
      after := 9 }]

/-- Which venue fill each sample id names. -/
def sampleIdentity (id : Uuid) : Uuid × String := if id = 12 then (1, "v2") else (1, "v1")

/-- The repeated observation books nothing: two fills applied, cash `1000 - 2·100 - 1 + 100 - 1`. -/
theorem runFills_exactly_once_duplicate :
    ((runFills (MemoryStore.empty.createDeployment sampleDeployment)
      sampleFillCalls).1.map (·.fill.key)).Nodup ∧
    (runFills (MemoryStore.empty.createDeployment sampleDeployment)
      sampleFillCalls).1.map (·.fill.id) = [10, 12] ∧
    cashOf (runFills (MemoryStore.empty.createDeployment sampleDeployment) sampleFillCalls).2 1 =
      some 898 := by
  have hreach : StoreReachable sampleIdentity
      (MemoryStore.empty.createDeployment sampleDeployment) :=
    Reachable.next (e := .createDeployment sampleDeployment) (Reachable.start rfl) ⟨trivial, rfl⟩
  have hcalls : ∀ call ∈ sampleFillCalls, call.Promised sampleIdentity := by
    intro call hcall
    simp only [sampleFillCalls, mem_cons, not_mem_nil, or_false] at hcall
    rcases hcall with rfl | rfl | rfl
    · exact ⟨rfl, rfl, rfl⟩
    · exact ⟨rfl, rfl, rfl⟩
    · exact ⟨rfl, rfl, rfl⟩
  obtain ⟨hnodup, _, -⟩ := runFills_exactly_once hreach hcalls
  refine ⟨hnodup, by decide +kernel, ?_⟩
  decide +kernel

end Thytrader.Trading
