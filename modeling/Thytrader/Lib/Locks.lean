import Mathlib.Data.Fintype.Order
import Mathlib.Logic.Function.Basic
import Mathlib.Order.WellFounded
import Thytrader.Lib.Program

/-!
# Crowds of programs that take locks

Any number of programs over one shared state, each suspended between its operations. A taken lock
stops whoever wants it, `withLock` frees it on every way out, and a program abandoned between two
operations frees what it holds.

A `Regime` is a protocol whose knowledge says which locks a program holds: it takes them
in rank order and frees only its own, and what it knows of the state can be disturbed only
by programs that hold other locks. The `Kept` lemmas keep every program within it, and in a
crowd so kept nobody waits in a circle (`Kept.no_cycle`).
-/

namespace Thytrader.Lib

open List Function

/-- An operation on the shared state, or on a lock. -/
inductive LockOp (L Op : Type) where
  | acquire (lock : L)
  | release (lock : L)
  | act (op : Op)

/-- Taking and freeing a lock answer nothing. -/
abbrev LockOp.Answer {L Op : Type} (Answer : Op → Type) : LockOp L Op → Type
  | .acquire _ => Unit
  | .release _ => Unit
  | .act op => Answer op

/-- A program that may take and free locks. -/
abbrev LockProgram (L ε Op : Type) (Answer : Op → Type) (α : Type) : Type :=
  Program ε (LockOp L Op) (LockOp.Answer Answer) α

section

variable {L ε Op : Type} {Answer : Op → Type} {α : Type}

/-- One operation on the shared state. -/
def perform (op : Op) : LockProgram L ε Op Answer (Answer op) :=
  .perform (.act op) .done

/-- `async with lock`: the lock is freed on every way out of the body. -/
def withLock (lock : L) (body : LockProgram L ε Op Answer α) : LockProgram L ε Op Answer α :=
  .perform (.acquire lock) (fun _ =>
    body.attempt >>= fun outcome => .perform (.release lock) (fun _ => .ofExcept outcome))

variable {K : Type} {d : Protocol (LockOp L Op) (LockOp.Answer Answer) K} {k : K}
  {post : K → α → Prop} {raised : K → Prop} {op : Op}

theorem Follows.perform {post : K → Answer op → Prop} (hrequire : d.require k (.act op))
    (hpost : ∀ answer, d.answers k (.act op) answer → post (d.learn k (.act op) answer) answer) :
    Follows d k (perform op : LockProgram L ε Op Answer (Answer op)) post raised :=
  ⟨hrequire, hpost⟩

theorem Follows.perform_bind {f : Answer op → LockProgram L ε Op Answer α}
    (hrequire : d.require k (.act op))
    (hnext : ∀ answer, d.answers k (.act op) answer → Follows d (d.learn k (.act op) answer) (f
      answer) post raised) :
    Follows d k (Thytrader.Lib.perform op >>= f) post raised :=
  ⟨hrequire, hnext⟩

/-- The body runs with the lock, and whichever way it ends the lock is freed. -/
theorem Follows.withLock {lock : L} {body : LockProgram L ε Op Answer α}
    (hacquire : d.require k (.acquire lock))
    (hbody : Follows d (d.learn k (.acquire lock) ()) body
      (fun k' value => d.require k' (.release lock) ∧ post (d.learn k' (.release lock) ()) value)
      (fun k' => d.require k' (.release lock) ∧ raised (d.learn k' (.release lock) ()))) :
    Follows d k (withLock lock body) post raised := by
  refine ⟨hacquire, fun _ _ => ?_⟩
  refine Follows.bind hbody.attempt ?_
  intro k' outcome houtcome
  cases outcome with
  | ok | error => exact ⟨houtcome.1, fun _ _ => houtcome.2⟩

end

/-! ## Crowds -/

/-- A call and what is left of its program. -/
structure Task (C L ε Op : Type) (Answer : Op → Type) where
  call : C
  program : LockProgram L ε Op Answer Unit

/-- The shared state, who holds which lock, and every call made so far. -/
structure Crowd (σ C L ε Op : Type) (Answer : Op → Type) where
  state : σ
  owner : L → Option Nat
  tasks : List (Task C L ε Op Answer)

/-- What happens next in a crowd. -/
inductive CrowdEvent (C L Op ι : Type) where
  | start (call : C)
  | acquire (index : Nat) (lock : L)
  | release (index : Nat) (lock : L)
  | act (index : Nat) (op : Op)
  | abandon (index : Nat)
  | other (event : ι)

variable {σ C L ε Op ι K : Type} {Answer : Op → Type}

/-- One step: a call starts, a task takes a free lock, frees one or performs its next
operation, a task is abandoned, or another party acts. -/
inductive CrowdStep [DecidableEq L] (program : C → LockProgram L ε Op Answer Unit)
    (welcome : Crowd σ C L ε Op Answer → C → Prop)
    (exec : (op : Op) → σ → Answer op → σ → Prop) (env : σ → ι → σ → Prop) :
    Crowd σ C L ε Op Answer → CrowdEvent C L Op ι → Crowd σ C L ε Op Answer → Prop where
  | start {crowd : Crowd σ C L ε Op Answer} {call : C} (h : welcome crowd call) :
      CrowdStep program welcome exec env crowd (.start call)
        { crowd with tasks := crowd.tasks ++ [⟨call, program call⟩] }
  | acquire {crowd : Crowd σ C L ε Op Answer} {index : Nat} {call : C} {lock : L}
      {next : Unit → LockProgram L ε Op Answer Unit}
      (hat : crowd.tasks[index]? = some ⟨call, .perform (.acquire lock) next⟩)
      (hfree : crowd.owner lock = none) :
      CrowdStep program welcome exec env crowd (.acquire index lock)
        ⟨crowd.state, Function.update crowd.owner lock (some index),
          crowd.tasks.set index ⟨call, next ()⟩⟩
  | release {crowd : Crowd σ C L ε Op Answer} {index : Nat} {call : C} {lock : L}
      {next : Unit → LockProgram L ε Op Answer Unit}
      (hat : crowd.tasks[index]? = some ⟨call, .perform (.release lock) next⟩) :
      CrowdStep program welcome exec env crowd (.release index lock)
        ⟨crowd.state, Function.update crowd.owner lock none, crowd.tasks.set index ⟨call, next ()⟩⟩
  | act {crowd : Crowd σ C L ε Op Answer} {index : Nat} {call : C} {op : Op} {answer : Answer op}
      {next : Answer op → LockProgram L ε Op Answer Unit} {state : σ}
      (hat : crowd.tasks[index]? = some ⟨call, .perform (.act op) next⟩)
      (hexec : exec op crowd.state answer state) :
      CrowdStep program welcome exec env crowd (.act index op)
        ⟨state, crowd.owner, crowd.tasks.set index ⟨call, next answer⟩⟩
  | abandon {crowd : Crowd σ C L ε Op Answer} {index : Nat} {task : Task C L ε Op Answer}
      (hat : crowd.tasks[index]? = some task) :
      CrowdStep program welcome exec env crowd (.abandon index)
        ⟨crowd.state, fun lock => if crowd.owner lock = some index then none else crowd.owner lock,
          crowd.tasks.set index ⟨task.call, .done ()⟩⟩
  | other {crowd : Crowd σ C L ε Op Answer} {event : ι} {state : σ}
      (h : env crowd.state event state) :
      CrowdStep program welcome exec env crowd (.other event) { crowd with state }

variable {exec : (op : Op) → σ → Answer op → σ → Prop} {env : σ → ι → σ → Prop}

theorem CrowdStep.calls [DecidableEq L] {program : C → LockProgram L ε Op Answer Unit}
    {welcome : Crowd σ C L ε Op Answer → C → Prop} {crowd crowd' : Crowd σ C L ε Op Answer}
    {event : CrowdEvent C L Op ι} (h : CrowdStep program welcome exec env crowd event crowd')
    {call : C} (hcall : call ∈ crowd.tasks.map Task.call) : call ∈ crowd'.tasks.map Task.call := by
  have hset : ∀ {index : Nat} {old : Task C L ε Op Answer}
      (rest : LockProgram L ε Op Answer Unit), crowd.tasks[index]? = some old →
      call ∈ (crowd.tasks.set index ⟨old.call, rest⟩).map Task.call := by
    intro index old rest hat
    obtain ⟨hindex, rfl⟩ := List.getElem?_eq_some_iff.mp hat
    have hindex' : index < (crowd.tasks.map Task.call).length := by
      rw [length_map]
      exact hindex
    have hsame : (crowd.tasks.map Task.call).set index crowd.tasks[index].call =
        crowd.tasks.map Task.call := by
      rw [← getElem_map Task.call (h := hindex'), set_getElem_self]
    rw [map_set, hsame]
    exact hcall
  cases h with
  | start =>
    rw [map_append]
    exact mem_append_left _ hcall
  | acquire hat | release hat | act hat | abandon hat => exact hset _ hat
  | other => exact hcall

/-! ## Playing a crowd -/

/-- What a scheduler may do next: start a call, give a task its turn, or abandon one. -/
inductive CrowdMove (C : Type) where
  | call (call : C)
  | turn (index : Nat)
  | abandon (index : Nat)

section

variable [DecidableEq L] (program : C → LockProgram L ε Op Answer Unit)
  (run : (op : Op) → σ → Answer op × σ)

/-- The step a move takes, `run` answering the operations; a task that has ended or waits for a
lock takes none. -/
def Crowd.play (crowd : Crowd σ C L ε Op Answer) :
    CrowdMove C → Option (CrowdEvent C L Op ι × Crowd σ C L ε Op Answer)
  | .call call =>
    some (.start call, { crowd with tasks := crowd.tasks ++ [⟨call, program call⟩] })
  | .turn index =>
    match crowd.tasks[index]? with
    | some ⟨call, .perform (.acquire lock) next⟩ =>
      if crowd.owner lock = none then
        some (.acquire index lock, ⟨crowd.state, Function.update crowd.owner lock (some index),
          crowd.tasks.set index ⟨call, next ()⟩⟩)
      else none
    | some ⟨call, .perform (.release lock) next⟩ =>
      some (.release index lock, ⟨crowd.state, Function.update crowd.owner lock none,
        crowd.tasks.set index ⟨call, next ()⟩⟩)
    | some ⟨call, .perform (.act op) next⟩ =>
      some (.act index op, ⟨(run op crowd.state).2, crowd.owner,
        crowd.tasks.set index ⟨call, next (run op crowd.state).1⟩⟩)
    | _ => none
  | .abandon index =>
    (crowd.tasks[index]?).map (fun task => (.abandon index, ⟨crowd.state,
      fun lock => if crowd.owner lock = some index then none else crowd.owner lock,
      crowd.tasks.set index ⟨task.call, .done ()⟩⟩))

def Crowd.playAll (crowd : Crowd σ C L ε Op Answer) :
    List (CrowdMove C) → Option (List (CrowdEvent C L Op ι) × Crowd σ C L ε Op Answer)
  | [] => some ([], crowd)
  | move :: rest => do
    let (event, next) ← crowd.play program run move
    let (events, last) ← next.playAll rest
    return (event :: events, last)

variable {program run} {crowd crowd' : Crowd σ C L ε Op Answer} {event : CrowdEvent C L Op ι}
  {welcome : Crowd σ C L ε Op Answer → C → Prop}

theorem Crowd.play_step {move : CrowdMove C}
    (hwelcome : ∀ call, move = .call call → welcome crowd call)
    (hrun : ∀ op s, exec op s (run op s).1 (run op s).2)
    (h : crowd.play program run move = some (event, crowd')) :
    CrowdStep program welcome exec env crowd event crowd' := by
  cases move with
  | call call =>
    cases h
    exact .start (hwelcome call rfl)
  | turn index =>
    simp only [play] at h
    split at h
    next hat =>
      obtain ⟨hfree, h⟩ := (Option.ite_none_right_eq_some).mp h
      cases h
      exact .acquire hat hfree
    next hat =>
      cases h
      exact .release hat
    next op _ hat =>
      cases h
      exact .act hat (hrun op _)
    · cases h
  | abandon index =>
    obtain ⟨task, hat, h⟩ := Option.map_eq_some_iff.mp h
    cases h
    exact .abandon hat

/-- What is played is a run. -/
theorem Crowd.playAll_run {moves : List (CrowdMove C)} {events : List (CrowdEvent C L Op ι)}
    (hwelcome : ∀ crowd call, .call call ∈ moves → welcome crowd call)
    (hrun : ∀ op s, exec op s (run op s).1 (run op s).2)
    (h : crowd.playAll program run moves = some (events, crowd')) :
    Run (CrowdStep program welcome exec env) crowd events crowd' := by
  induction moves generalizing crowd events with
  | nil =>
    cases h
    exact .nil _
  | cons move rest ih =>
    obtain ⟨⟨event, next⟩, hplay, h⟩ := Option.bind_eq_some_iff.mp h
    obtain ⟨⟨later, last⟩, hrest, h⟩ := Option.bind_eq_some_iff.mp h
    cases h
    refine .cons (play_step (fun call hcall => hwelcome _ call ?_) hrun hplay)
      (ih (fun crowd call hmem => hwelcome crowd call (mem_cons_of_mem _ hmem)) hrest)
    rw [hcall]
    exact mem_cons_self

end

/-- Task `i` wants a lock that task `j` holds. -/
def Crowd.Waits (crowd : Crowd σ C L ε Op Answer) (i j : Nat) : Prop :=
  ∃ call lock next, crowd.tasks[i]? = some ⟨call, .perform (.acquire lock) next⟩ ∧
    crowd.owner lock = some j

/-! ## Regimes -/

/-- A protocol that accounts for locks, what its knowledge means, and what is true of the
shared state throughout. -/
structure Regime (σ C L ε Op ι K : Type) (Answer : Op → Type) where
  protocol : Protocol (LockOp L Op) (LockOp.Answer Answer) K
  holds : K → L → Prop
  rank : L → Nat
  good : σ → Prop
  inv : C → K → σ → Prop

/-- The regime survives every operation it permits, of the program and of the others. -/
structure Regime.Sound (r : Regime σ C L ε Op ι K Answer)
    (exec : (op : Op) → σ → Answer op → σ → Prop) (env : σ → ι → σ → Prop) : Prop where
  ordered : ∀ k lock, r.protocol.require k (.acquire lock) → ∀ l, r.holds k l →
    r.rank l < r.rank lock
  acquired : ∀ k lock l, r.holds (r.protocol.learn k (.acquire lock) ()) l ↔
    l = lock ∨ r.holds k l
  released : ∀ k lock l, r.holds (r.protocol.learn k (.release lock) ()) l ↔
    l ≠ lock ∧ r.holds k l
  releasing : ∀ k lock, r.protocol.require k (.release lock) → r.holds k lock
  acted : ∀ k op answer l, r.holds (r.protocol.learn k (.act op) answer) l ↔ r.holds k l
  locking : ∀ k lock, r.protocol.answers k (.acquire lock) () ∧
    r.protocol.answers k (.release lock) ()
  acquire : ∀ call k s lock, r.inv call k s → r.protocol.require k (.acquire lock) →
    r.inv call (r.protocol.learn k (.acquire lock) ()) s
  release : ∀ call k s lock, r.inv call k s → r.inv call (r.protocol.learn k (.release lock) ()) s
  own : ∀ call k s op answer s', r.good s → r.inv call k s → r.protocol.require k (.act op) →
    exec op s answer s' → r.good s' ∧ r.protocol.answers k (.act op) answer ∧
      r.inv call (r.protocol.learn k (.act op) answer) s'
  others : ∀ call k call' k' s op answer s', r.good s → r.inv call k s → r.inv call' k' s →
    (∀ l, r.holds k l → ¬ r.holds k' l) → r.protocol.require k' (.act op) →
    exec op s answer s' → r.inv call k s'
  other : ∀ s event s', r.good s → env s event s' →
    r.good s' ∧ ∀ call k, r.inv call k s → r.inv call k s'

variable {r : Regime σ C L ε Op ι K Answer}

/-- At its end a program holds nothing. -/
def Regime.Free (r : Regime σ C L ε Op ι K Answer) (k : K) : Prop := ∀ l, ¬ r.holds k l

/-- The program of one task is within the regime: with the locks it holds, and with
knowledge that is true of the state. -/
def Regime.Within (r : Regime σ C L ε Op ι K Answer) (crowd : Crowd σ C L ε Op Answer)
    (index : Nat) (task : Task C L ε Op Answer) (k : K) : Prop :=
  (∀ l, r.holds k l ↔ crowd.owner l = some index) ∧ r.inv task.call k crowd.state ∧
    Follows r.protocol k task.program (fun k _ => r.Free k) r.Free

/-- Every task is within the regime, and only tasks hold locks. -/
structure Regime.Kept (r : Regime σ C L ε Op ι K Answer) (crowd : Crowd σ C L ε Op Answer) :
    Prop where
  good : r.good crowd.state
  owners : ∀ l i, crowd.owner l = some i → i < crowd.tasks.length
  within : ∀ i task, crowd.tasks[i]? = some task → ∃ k, r.Within crowd i task k

variable {i j : Nat}

/-- A task of a list with one task replaced: the new one, or an old one elsewhere. -/
theorem getElem?_set_cases {α : Type} {l : List α} {new a : α}
    (h : (l.set i new)[j]? = some a) : (i = j ∧ a = new) ∨ (i ≠ j ∧ l[j]? = some a) := by
  rw [getElem?_set] at h
  split at h
  next he =>
    split at h
    · exact .inl ⟨he, (Option.some.inj h).symm⟩
    · cases h
  next hne => exact .inr ⟨hne, h⟩

section

variable {exec : (op : Op) → σ → Answer op → σ → Prop} {env : σ → ι → σ → Prop}
  {crowd : Crowd σ C L ε Op Answer} {task : Task C L ε Op Answer}

theorem Regime.Within.disjoint {task' : Task C L ε Op Answer} {k k' : K}
    (h : r.Within crowd i task k) (h' : r.Within crowd j task' k') (hne : i ≠ j) :
    ∀ l, r.holds k l → ¬ r.holds k' l := by
  intro l hl hl'
  have hi := (h.1 l).mp hl
  rw [(h'.1 l).mp hl'] at hi
  exact hne (Option.some.inj hi).symm

variable {call : C} {index : Nat}

theorem Regime.Kept.acting (hkept : r.Kept crowd)
    {next : Answer op → LockProgram L ε Op Answer Unit}
    (hat : crowd.tasks[index]? = some ⟨call, .perform (.act op) next⟩) :
    ∃ k, (∀ l, r.holds k l ↔ crowd.owner l = some index) ∧ r.inv call k crowd.state ∧
      r.protocol.require k (.act op) := by
  obtain ⟨k, hholds, hinv, hfollows⟩ := hkept.within index _ hat
  exact ⟨k, hholds, hinv, hfollows.1⟩

/-- One task moves on where the state stands, and no lock of another task changes hands. -/
theorem Regime.Kept.relock (hkept : r.Kept crowd) {old : Task C L ε Op Answer}
    (hat : crowd.tasks[index]? = some old) {owner : L → Option Nat} {k : K}
    (hothers : ∀ l i, i ≠ index → (owner l = some i ↔ crowd.owner l = some i))
    (hwithin : r.Within ⟨crowd.state, owner, crowd.tasks.set index task⟩ index task k) :
    r.Kept ⟨crowd.state, owner, crowd.tasks.set index task⟩ := by
  refine ⟨hkept.good, ?_, ?_⟩
  · intro l i howner
    rw [length_set]
    by_cases hi : i = index
    · rw [hi]
      exact (List.getElem?_eq_some_iff.mp hat).1
    · exact hkept.owners l i ((hothers l i hi).mp howner)
  · intro i other hother
    obtain ⟨rfl, rfl⟩ | ⟨hne, hold⟩ := getElem?_set_cases hother
    · exact ⟨k, hwithin⟩
    · obtain ⟨k', hholds, hrest⟩ := hkept.within i other hold
      exact ⟨k', fun l => (hholds l).trans (hothers l i (Ne.symm hne)).symm, hrest⟩

variable {next : Unit → LockProgram L ε Op Answer Unit}

theorem Regime.Kept.acquire [DecidableEq L] (hsound : r.Sound exec env) (hkept : r.Kept crowd)
    {lock : L} (hat : crowd.tasks[index]? = some ⟨call, .perform (.acquire lock) next⟩)
    (hfree : crowd.owner lock = none) :
    r.Kept ⟨crowd.state, Function.update crowd.owner lock (some index),
      crowd.tasks.set index ⟨call, next ()⟩⟩ := by
  obtain ⟨k, hholds, hinv, hfollows⟩ := hkept.within index _ hat
  refine hkept.relock hat ?_ ⟨?_, hsound.acquire call k _ lock hinv hfollows.1,
    hfollows.2 () (hsound.locking k lock).1⟩
  · intro l i hi
    by_cases hl : l = lock
    · simp [hl, hfree, hi.symm]
    · rw [update_of_ne hl]
  · intro l
    rw [hsound.acquired]
    by_cases hl : l = lock
    · simp [hl]
    · simp [hl, hholds l]

theorem Regime.Kept.release [DecidableEq L] (hsound : r.Sound exec env) (hkept : r.Kept crowd)
    {lock : L} (hat : crowd.tasks[index]? = some ⟨call, .perform (.release lock) next⟩) :
    r.Kept ⟨crowd.state, Function.update crowd.owner lock none,
      crowd.tasks.set index ⟨call, next ()⟩⟩ := by
  obtain ⟨k, hholds, hinv, hfollows⟩ := hkept.within index _ hat
  have hmine : crowd.owner lock = some index :=
    (hholds lock).mp (hsound.releasing k lock hfollows.1)
  refine hkept.relock hat ?_ ⟨?_, hsound.release call k _ lock hinv,
    hfollows.2 () (hsound.locking k lock).2⟩
  · intro l i hi
    by_cases hl : l = lock
    · simp [hl, hmine, hi.symm]
    · rw [update_of_ne hl]
  · intro l
    rw [hsound.released]
    by_cases hl : l = lock
    · simp [hl]
    · simp [hl, hholds l]

theorem Regime.Kept.act (hsound : r.Sound exec env) (hkept : r.Kept crowd) {answer : Answer op}
    {next : Answer op → LockProgram L ε Op Answer Unit} {state : σ}
    (hat : crowd.tasks[index]? = some ⟨call, .perform (.act op) next⟩)
    (hexec : exec op crowd.state answer state) :
    r.Kept ⟨state, crowd.owner, crowd.tasks.set index ⟨call, next answer⟩⟩ := by
  obtain ⟨k, hholds, hinv, hfollows⟩ := hkept.within index _ hat
  obtain ⟨hgood, hanswer, hlearn⟩ :=
    hsound.own call k _ op answer state hkept.good hinv hfollows.1 hexec
  refine ⟨hgood, ?_, ?_⟩
  · intro l i howner
    rw [length_set]
    exact hkept.owners l i howner
  · intro i task htask
    obtain ⟨rfl, rfl⟩ | ⟨hne, hold⟩ := getElem?_set_cases htask
    · refine ⟨r.protocol.learn k (.act op) answer, ?_, hlearn, hfollows.2 answer hanswer⟩
      intro l
      rw [hsound.acted]
      exact hholds l
    · obtain ⟨k', hwithin⟩ := hkept.within i task hold
      have hdisjoint := hwithin.disjoint ⟨hholds, hinv, hfollows⟩ (Ne.symm hne)
      exact ⟨k', hwithin.1, hsound.others task.call k' call k _ op answer state hkept.good
        hwithin.2.1 hinv hdisjoint hfollows.1 hexec, hwithin.2.2⟩

theorem Regime.Kept.abandon (hkept : r.Kept crowd) (hat : crowd.tasks[index]? = some task)
    (hidle : ∀ k s, r.inv task.call k s → ∃ k', r.Free k' ∧ r.inv task.call k' s) :
    r.Kept ⟨crowd.state,
      fun lock => if crowd.owner lock = some index then none else crowd.owner lock,
      crowd.tasks.set index ⟨task.call, .done ()⟩⟩ := by
  obtain ⟨k, -, hinv, -⟩ := hkept.within index _ hat
  obtain ⟨kidle, hnothing, hidleInv⟩ := hidle k _ hinv
  refine hkept.relock hat ?_ ⟨fun l => iff_of_false (hnothing l) ?_, hidleInv, hnothing⟩
  · intro l i hi
    by_cases howner : crowd.owner l = some index
    · simp [howner, hi.symm]
    · simp [howner]
  · by_cases howner : crowd.owner l = some index
    · simp [howner]
    · simp [howner]

theorem Regime.Kept.other (hsound : r.Sound exec env) (hkept : r.Kept crowd) {event : ι}
    {state : σ} (h : env crowd.state event state) : r.Kept { crowd with state } := by
  obtain ⟨hgood, hinvs⟩ := hsound.other _ event state hkept.good h
  refine ⟨hgood, hkept.owners, ?_⟩
  intro i task htask
  obtain ⟨k, hholds, hinv, hfollows⟩ := hkept.within i task htask
  exact ⟨k, hholds, hinvs task.call k hinv, hfollows⟩

theorem Regime.Kept.start (hkept : r.Kept crowd) {program : LockProgram L ε Op Answer Unit} {k : K}
    (hnothing : r.Free k) (hinv : r.inv call k crowd.state)
    (hfollows : Follows r.protocol k program (fun k _ => r.Free k) r.Free) :
    r.Kept { crowd with tasks := crowd.tasks ++ [⟨call, program⟩] } := by
  refine ⟨hkept.good, ?_, ?_⟩
  · intro l i howner
    rw [length_append]
    exact Nat.lt_add_right _ (hkept.owners l i howner)
  · intro i task htask
    by_cases hi : i < crowd.tasks.length
    · rw [getElem?_append_left hi] at htask
      exact hkept.within i task htask
    · rw [getElem?_append_right (Nat.le_of_not_lt hi), getElem?_singleton] at htask
      split at htask
      · rw [← Option.some.inj htask]
        refine ⟨k, ?_, hinv, hfollows⟩
        intro l
        refine ⟨fun h => absurd h (hnothing l), fun h => absurd (hkept.owners l i h) hi⟩
      · cases htask

end

/-! ## No circular wait -/

variable {crowd : Crowd σ C L ε Op Answer}

theorem Regime.Kept.waits_rank (hsound : r.Sound exec env) (hkept : r.Kept crowd)
    (h : Relation.TransGen crowd.Waits i j) :
    ∃ call lock next, crowd.tasks[i]? = some ⟨call, .perform (.acquire lock) next⟩ ∧
      ∃ held, crowd.owner held = some j ∧ r.rank lock ≤ r.rank held := by
  induction h with
  | single h =>
    obtain ⟨call, lock, next, hat, howner⟩ := h
    exact ⟨call, lock, next, hat, lock, howner, Nat.le_refl _⟩
  | tail _ h ih =>
    obtain ⟨call, lock, next, hat, held, hheld, hle⟩ := ih
    obtain ⟨call', lock', next', hat', howner'⟩ := h
    obtain ⟨k, hholds, -, hfollows⟩ := hkept.within _ _ hat'
    have hlt := hsound.ordered k lock' hfollows.1 held ((hholds held).mpr hheld)
    exact ⟨call, lock, next, hat, lock', howner', Nat.le_trans hle (Nat.le_of_lt hlt)⟩

/-- Nobody waits, through any number of others, for itself. -/
theorem Regime.Kept.no_cycle (hsound : r.Sound exec env) (hkept : r.Kept crowd) (i : Nat) :
    ¬ Relation.TransGen crowd.Waits i i := by
  intro h
  obtain ⟨call, lock, next, hat, held, hheld, hle⟩ := hkept.waits_rank hsound h
  obtain ⟨k, hholds, -, hfollows⟩ := hkept.within _ _ hat
  have hlt := hsound.ordered k lock hfollows.1 held ((hholds held).mpr hheld)
  exact absurd hlt (Nat.not_lt.mpr hle)

/-! ## Progress -/

/-- Task `i` has an operation left. -/
def Crowd.Unfinished (crowd : Crowd σ C L ε Op Answer) (i : Nat) : Prop :=
  ∃ call op next, crowd.tasks[i]? = some ⟨call, .perform op next⟩

/-- A task that has ended holds nothing. -/
theorem Regime.Kept.holder (hkept : r.Kept crowd) {lock : L} (h : crowd.owner lock = some i) :
    crowd.Unfinished i := by
  obtain ⟨⟨call, program⟩, hat⟩ : ∃ task, crowd.tasks[i]? = some task :=
    ⟨_, List.getElem?_eq_getElem (hkept.owners lock i h)⟩
  obtain ⟨k, hholds, -, hfollows⟩ := hkept.within i _ hat
  have hheld := (hholds lock).mpr h
  cases program with
  | done | raise => exact absurd hheld (hfollows lock)
  | perform op next => exact ⟨call, op, next, hat⟩

/-- Of the tasks with an operation left, one waits for nobody. -/
theorem Regime.Kept.progress (hsound : r.Sound exec env) (hkept : r.Kept crowd)
    (h : crowd.Unfinished i) : ∃ j, crowd.Unfinished j ∧ ∀ k, ¬ crowd.Waits j k := by
  have hlt : i < crowd.tasks.length := by
    obtain ⟨_, _, _, hat⟩ := h
    exact (List.getElem?_eq_some_iff.mp hat).1
  let after (a b : Fin crowd.tasks.length) : Prop := Relation.TransGen crowd.Waits b a
  have : IsTrans _ after := ⟨fun _ _ _ hab hbc => hbc.trans hab⟩
  have : Std.Irrefl after := ⟨fun a => hkept.no_cycle hsound a⟩
  obtain ⟨j, hj, hlast⟩ := (Finite.wellFounded_of_trans_of_irrefl after).has_min
    {a | crowd.Unfinished a} ⟨⟨i, hlt⟩, h⟩
  refine ⟨j, hj, fun k hwaits => ?_⟩
  obtain ⟨_, lock, _, -, howner⟩ := id hwaits
  exact hlast ⟨k, hkept.owners lock k howner⟩ (hkept.holder howner) (.single hwaits)

end Thytrader.Lib
