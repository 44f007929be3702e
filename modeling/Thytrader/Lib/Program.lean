import Thytrader.Lib.Transition

/-!
# Programs over atomic operations

A `Program` performs one operation at a time and continues with its answer, so
it is exactly a coroutine whose awaits are its operations. `Interleave` runs one
program against a shared state that other parties change between any two of its
operations.

The proof method is rely/guarantee with knowledge: a `Discipline` says which operations the program
may perform given what it has learned, and what an answer teaches. A program that keeps a discipline
(`Guarded`) keeps it in every interleaving (`Guarded.interleave`).

A `Protocol` is a discipline for programs whose ending matters: which answers are
possible depends on what is known, and a raise has a postcondition of its own
(`Follows`).
-/

namespace Thytrader.Lib

/-- A program that performs operations and may raise. -/
inductive Program (ε Op : Type) (Answer : Op → Type) (α : Type) where
  | done (value : α)
  | raise (failure : ε)
  | perform (op : Op) (next : Answer op → Program ε Op Answer α)

namespace Program

variable {ε Op : Type} {Answer : Op → Type} {α β : Type}

/-- Run `p`, then `f` on its value; a raise ends both. -/
def bind (p : Program ε Op Answer α) (f : α → Program ε Op Answer β) : Program ε Op Answer β :=
  match p with
  | .done value => f value
  | .raise failure => .raise failure
  | .perform op next => .perform op (fun answer => (next answer).bind f)

instance : Monad (Program ε Op Answer) where
  pure := .done
  bind := Program.bind

/-- Catch: a raise becomes a failed value. -/
def attempt (p : Program ε Op Answer α) : Program ε Op Answer (Except ε α) :=
  match p with
  | .done value => .done (.ok value)
  | .raise failure => .done (.error failure)
  | .perform op next => .perform op (fun answer => (next answer).attempt)

/-- Raise a failed result, continue with a good one. -/
def ofExcept : Except ε α → Program ε Op Answer α
  | .ok value => .done value
  | .error failure => .raise failure

end Program

/-! ## Running alone -/

section

variable {σ ε Op : Type} {Answer : Op → Type} {α β : Type}

/-- Run the program with nothing in between: the state answers each operation. -/
def Program.run (exec : (op : Op) → σ → Answer op × σ) : Program ε Op Answer α → σ → Except ε α × σ
  | .done value, s => (.ok value, s)
  | .raise failure, s => (.error failure, s)
  | .perform op next, s => (next (exec op s).1).run exec (exec op s).2

variable (exec : (op : Op) → σ → Answer op × σ) (s : σ) (p : Program ε Op Answer α)

theorem Program.run_bind (f : α → Program ε Op Answer β) : (p >>= f).run exec s =
      match p.run exec s with
      | (.ok value, t) => (f value).run exec t
      | (.error failure, t) => (.error failure, t) := by
  induction p generalizing s with
  | done | raise => rfl
  | perform op _ ih => exact ih (exec op s).1 (exec op s).2

def Program.Only (kind : Op → Prop) : Program ε Op Answer α → Prop
  | .done _ => True
  | .raise _ => True
  | .perform op next => kind op ∧ ∀ answer, (next answer).Only kind

variable {kind : Op → Prop} {f : α → Program ε Op Answer β} {p : Program ε Op Answer α}

theorem Program.Only.bind (hp : p.Only kind)
    (hf : ∀ value, (f value).Only kind) : (p >>= f).Only kind := by
  induction p with
  | done value => exact hf value
  | raise => exact trivial
  | perform _ _ ih => exact ⟨hp.1, fun answer => ih answer (hp.2 answer)⟩

/-- What every operation of that kind keeps, the whole run keeps. -/
theorem Program.Only.run (hp : p.Only kind) {kept : σ → σ → Prop} (hrefl : ∀ s, kept s s)
    (htrans : ∀ {s t u}, kept s t → kept t u → kept s u)
    (hexec : ∀ op s, kind op → kept s (exec op s).2) : kept s (p.run exec s).2 := by
  induction p generalizing s with
  | done | raise => exact hrefl s
  | perform op _ ih =>
    exact htrans (hexec op s hp.1) (ih (exec op s).1 (exec op s).2 (hp.2 _))

theorem Program.run_attempt : p.attempt.run exec s = (.ok (p.run exec s).1, (p.run exec s).2) := by
  induction p generalizing s with
  | done | raise => rfl
  | perform op _ ih => exact ih (exec op s).1 (exec op s).2

end

/-! ## Interleavings -/

/-- The shared state and the rest of the program. -/
structure Config (σ ε Op : Type) (Answer : Op → Type) (α : Type) where
  state : σ
  program : Program ε Op Answer α

/-- Who took a step: the program, or another party. -/
inductive Turn (Op ι : Type) where
  | own (op : Op)
  | other (event : ι)

/-- One step: the program's next operation with some answer, or another party. -/
inductive Interleave {σ ε ι Op : Type} {Answer : Op → Type} {α : Type}
    (exec : (op : Op) → σ → Answer op → σ → Prop) (env : σ → ι → σ → Prop) :
    Config σ ε Op Answer α → Turn Op ι → Config σ ε Op Answer α → Prop where
  | own {s s' : σ} {op : Op} {next : Answer op → Program ε Op Answer α} {answer : Answer op}
      (h : exec op s answer s') :
      Interleave exec env ⟨s, .perform op next⟩ (.own op) ⟨s', next answer⟩
  | other {s s' : σ} {p : Program ε Op Answer α} {event : ι} (h : env s event s') :
      Interleave exec env ⟨s, p⟩ (.other event) ⟨s', p⟩

/-! ## Disciplines -/

/-- What a program may do given what it knows, and what it learns from an answer. -/
structure Discipline (Op : Type) (Answer : Op → Type) (K : Type) where
  require : K → Op → Prop
  answers : (op : Op) → Answer op → Prop
  learn : K → (op : Op) → Answer op → K

variable {σ ε ι Op K : Type} {Answer : Op → Type} {α β : Type}

/-- Every operation of the program is allowed by what it knows then, and it ends
with `post`. -/
def Guarded (d : Discipline Op Answer K) (k : K) (p : Program ε Op Answer α)
    (post : K → α → Prop) : Prop :=
  match p with
  | .done value => post k value
  | .raise _ => True
  | .perform op next =>
    d.require k op ∧ ∀ answer, d.answers op answer → Guarded d (d.learn k op answer) (next answer) post

namespace Guarded

variable {d : Discipline Op Answer K} {k : K} {p : Program ε Op Answer α} {post : K → α → Prop}

theorem pure {value : α} (h : post k value) :
    Guarded d k (Pure.pure value : Program ε Op Answer α) post := h

variable {m : K → α → Prop}

theorem bind {post : K → β → Prop} (hp : Guarded d k p m)
    (hf : ∀ k' value, m k' value → Guarded d k' (f value) post) :
    Guarded d k (p >>= f) post := by
  induction p generalizing k with
  | done value => exact hf k value hp
  | raise => exact trivial
  | perform _ _ ih => exact ⟨hp.1, fun answer hanswer => ih answer (hp.2 answer hanswer)⟩

theorem mono {post post' : K → α → Prop} (hp : Guarded d k p post)
    (hpost : ∀ k value, post k value → post' k value) : Guarded d k p post' := by
  induction p generalizing k with
  | done value => exact hpost k value hp
  | raise => exact trivial
  | perform _ _ ih => exact ⟨hp.1, fun answer hanswer => ih answer (hp.2 answer hanswer)⟩

theorem attempt (hp : Guarded d k p (fun _ _ => True)) :
    Guarded d k p.attempt (fun _ _ => True) := by
  induction p generalizing k with
  | done | raise => exact trivial
  | perform _ _ ih => exact ⟨hp.1, fun answer hanswer => ih answer (hp.2 answer hanswer)⟩

/-- A fact that no answer can unteach is still known at the end. -/
theorem keep (known : K → Prop)
    (hlearn : ∀ k op answer, d.answers op answer → known k → known (d.learn k op answer))
    (hk : known k) (hp : Guarded d k p post) :
    Guarded d k p (fun k' value => known k' ∧ post k' value) := by
  induction p generalizing k with
  | done => exact ⟨hk, hp⟩
  | raise => exact trivial
  | perform op _ ih =>
    exact ⟨hp.1, fun answer hanswer =>
      ih answer (hlearn k op answer hanswer hk) (hp.2 answer hanswer)⟩

/-- The program's operation keeps the discipline and the knowledge's meaning. -/
structure Sound (d : Discipline Op Answer K) (exec : (op : Op) → σ → Answer op → σ → Prop)
    (env : σ → ι → σ → Prop) (inv : K → σ → Prop) (allowed : σ → Op → Prop)
    (guarantee : σ → σ → Prop) : Prop where
  own : ∀ k s op answer s', inv k s → d.require k op → allowed s op → exec op s answer s' →
    d.answers op answer ∧ inv (d.learn k op answer) s' ∧ guarantee s s'
  other : ∀ k s event s', inv k s → env s event s' → inv k s'

variable {exec : (op : Op) → σ → Answer op → σ → Prop} {env : σ → ι → σ → Prop}
  {inv : K → σ → Prop} {allowed : σ → Op → Prop} {guarantee : σ → σ → Prop}
  {post : K → α → Prop}

/-- The configuration's program is guarded by some knowledge that is true of its state. -/
def Holds (d : Discipline Op Answer K) (inv : K → σ → Prop) (post : K → α → Prop)
    (c : Config σ ε Op Answer α) : Prop :=
  ∃ k, inv k c.state ∧ Guarded d k c.program post

/-- One step of an interleaving keeps the program guarded, and a step of the
program's own keeps the guarantee. -/
theorem interleave (hsound : Sound d exec env inv allowed guarantee) {c c' : Config σ ε Op Answer α}
    {turn : Turn Op ι} (hc : Holds d inv post c) (hstep : Interleave exec env c turn c')
    (hallowed : ∀ op, turn = .own op → allowed c.state op) :
    Holds d inv post c' ∧ ((∃ op, turn = .own op) → guarantee c.state c'.state) := by
  obtain ⟨k, hinv, hguarded⟩ := hc
  cases hstep with
  | own hexec =>
    obtain ⟨hanswer, hinv', hguarantee⟩ :=
      hsound.own _ _ _ _ _ hinv hguarded.1 (hallowed _ rfl) hexec
    exact ⟨⟨_, hinv', hguarded.2 _ hanswer⟩, fun _ => hguarantee⟩
  | other henv =>
    refine ⟨⟨k, hsound.other _ _ _ _ hinv henv, hguarded⟩, ?_⟩
    rintro ⟨op, hop⟩
    cases hop

variable {exec : (op : Op) → σ → Answer op × σ}

/-- A guarded program run alone: what its operations keep of the knowledge's meaning holds at
the end. -/
theorem run {inv : K → σ → Prop}
    (hown : ∀ k s op, inv k s → d.require k op → d.answers op (exec op s).1 ∧ inv (d.learn k op
      (exec op s).1) (exec op s).2) (hp : Guarded d k p post) {s : σ} (hinv : inv k s) :
    ∃ k', inv k' (p.run exec s).2 := by
  induction p generalizing k s with
  | done | raise => exact ⟨k, hinv⟩
  | perform op _ ih =>
    obtain ⟨hanswer, hinv'⟩ := hown k s op hinv hp.1
    exact ih _ (hp.2 _ hanswer) hinv'

end Guarded

/-! ## Protocols -/

/-- Some course of answers leads the program to an operation of the given kind. -/
inductive Program.MayPerform (kind : Op → Prop) : Program ε Op Answer α → Prop where
  | here {op : Op} {next : Answer op → Program ε Op Answer α} (h : kind op) :
      MayPerform kind (.perform op next)
  | later {op : Op} {next : Answer op → Program ε Op Answer α} (answer : Answer op)
      (h : MayPerform kind (next answer)) : MayPerform kind (.perform op next)

/-- What a program may do given what it knows, which answers it may get then, and what
they teach. -/
structure Protocol (Op : Type) (Answer : Op → Type) (K : Type) where
  require : K → Op → Prop
  answers : K → (op : Op) → Answer op → Prop
  learn : K → (op : Op) → Answer op → K

/-- Every operation of the program is allowed by what it knows then; it ends with `post`
or raises with `raised`. -/
def Follows (d : Protocol Op Answer K) (k : K) (p : Program ε Op Answer α)
    (post : K → α → Prop) (raised : K → Prop) : Prop :=
  match p with
  | .done value => post k value
  | .raise _ => raised k
  | .perform op next =>
    d.require k op ∧ ∀ answer, d.answers k op answer →
      Follows d (d.learn k op answer) (next answer) post raised

namespace Follows

variable {d : Protocol Op Answer K} {k : K} {p : Program ε Op Answer α} {post : K → α → Prop}
  {raised : K → Prop}

theorem bind {post : K → β → Prop} (hp : Follows d k p m raised)
    (hf : ∀ k' value, m k' value → Follows d k' (f value) post raised) :
    Follows d k (p >>= f) post raised := by
  induction p generalizing k with
  | done value => exact hf k value hp
  | raise => exact hp
  | perform _ _ ih => exact ⟨hp.1, fun answer hanswer => ih answer (hp.2 answer hanswer)⟩

variable {raised' : K → Prop}

theorem mono {post' : K → α → Prop} (hp : Follows d k p post raised)
    (hpost : ∀ k value, post k value → post' k value) (hraised : ∀ k, raised k → raised' k) :
    Follows d k p post' raised' := by
  induction p generalizing k with
  | done value => exact hpost k value hp
  | raise => exact hraised k hp
  | perform _ _ ih => exact ⟨hp.1, fun answer hanswer => ih answer (hp.2 answer hanswer)⟩

/-- What a caught program leaves: its value with `post`, or its failure with `raised`. -/
def Caught (post : K → α → Prop) (raised : K → Prop) (k : K) : Except ε α → Prop
  | .ok value => post k value
  | .error _ => raised k

theorem attempt (hp : Follows d k p post raised) :
    Follows d k p.attempt (Caught post raised) raised' := by
  induction p generalizing k with
  | done | raise => exact hp
  | perform _ _ ih => exact ⟨hp.1, fun answer hanswer => ih answer (hp.2 answer hanswer)⟩

theorem ofExcept {x : Except ε α} (hok : ∀ value, x = .ok value → post k value)
    (herror : ∀ failure, x = .error failure → raised k) :
    Follows d k (Program.ofExcept x : Program ε Op Answer α) post raised := by
  cases x with
  | ok value => exact hok value rfl
  | error failure => exact herror failure rfl

/-- A program run alone: the state it ends in means what is known at its end. -/
theorem run {holds : K → σ → Prop}
    (hown : ∀ k s op, holds k s → d.require k op → d.answers k op (exec op s).1 ∧ holds (d.learn k
      op (exec op s).1) (exec op s).2) (hp : Follows d k p post raised) {s : σ} (hs : holds k s) :
    ∃ k', holds k' (p.run exec s).2 ∧ Caught post raised k' (p.run exec s).1 := by
  induction p generalizing k s with
  | done | raise => exact ⟨k, hs, hp⟩
  | perform op _ ih =>
    obtain ⟨hanswer, hs'⟩ := hown k s op hs hp.1
    exact ih _ (hp.2 _ hanswer) hs'

end Follows

end Thytrader.Lib
