import Mathlib.Data.Rat.Floor
import Mathlib.Data.Finset.Basic

/-!
# Scalars, identities and failures

The sources compute with `Decimal`, `datetime` and `UUID` and refuse by raising. The embedding
reads:

* `Decimal` is an exact rational — no context precision, no NaN, no infinity,
  so `is_finite` is constantly true and an `Inexact` trap never fires;
* a `datetime` is a UTC instant in microseconds since the epoch (`Time`), a
  `timedelta` a length in microseconds;
* a `UUID` is its 128-bit value, ordered and printed as Python does;
* a raising function returns `Except Failure`, with the exception's class as
  the constructor and its text as the argument.
-/

namespace Thytrader

/-- `decimal.Decimal`, read as an exact rational. -/
abbrev Decimal := ℚ

/-- A UTC instant, in microseconds since the epoch. -/
abbrev Time := Int

/-- A `timedelta`, in microseconds. -/
abbrev Duration := Int

/-- `uuid.UUID`: the 128-bit integer value. -/
abbrev Uuid := BitVec 128

instance : DecidableEq Uuid := inferInstanceAs (DecidableEq (BitVec 128))

/-- The exceptions the modelled functions raise. `leaseTaken` is a subclass of
`ExecutionConflictError`, `conflict` that class itself; `simulation` and `signalEvaluation` are the
fail-closed errors. -/
inductive Failure where
  | storeError (message : String)
  | conflict (message : String)
  | leaseTaken (message : String)
  | valueError (message : String)
  | simulation (message : String)
  | signalEvaluation (message : String)
  | keyError
  | divisionByZero
  deriving DecidableEq, Repr

/-- What a store call or a projection returns: a value, or the exception. -/
abbrev Result (α : Type) := Except Failure α

section

variable {α : Type} {c : Prop} [Decidable c] {raised next result : α}

/-- A guard that did not raise: its condition is false. -/
theorem of_ite_ne (h : (if c then raised else next) = result) (hne : raised ≠ result) :
    ¬ c ∧ next = result := by
  by_cases hc : c
  · rw [if_pos hc] at h
    exact absurd h hne
  · rw [if_neg hc] at h
    exact ⟨hc, h⟩

theorem of_ite_ne_else (h : (if c then next else raised) = result) (hne : raised ≠ result) :
    c ∧ next = result := by
  by_cases hc : c
  · rw [if_pos hc] at h
    exact ⟨hc, h⟩
  · rw [if_neg hc] at h
    exact absurd h hne

end

theorem bind_eq_ok {ε α β : Type} {x : Except ε α} {f : α → Except ε β} {r : β}
    (h : (x >>= f) = .ok r) : ∃ a, x = .ok a ∧ f a = .ok r := by
  cases x with
  | error => exact absurd h (by simp [bind, Except.bind])
  | ok a => exact ⟨a, rfl, h⟩

theorem bind_pure_ok {ε α β : Type} {x : Except ε α} {f : α → β} {r : β}
    (h : (x >>= fun a => .ok (f a)) = .ok r) : ∃ a, x = .ok a ∧ f a = r := by
  obtain ⟨a, hx, h⟩ := bind_eq_ok h
  exact ⟨a, hx, Except.ok.inj h⟩

theorem exists_eq_ok {α : Type} {x : Result α} (h : x.toOption.isSome = true) :
    ∃ value, x = .ok value := by
  cases x with
  | error => exact absurd h (by simp [Except.toOption])
  | ok value => exact ⟨value, rfl⟩

theorem exists_eq_ok_of_any {α : Type} {x : Result α} {p : α → Bool}
    (h : x.toOption.any p = true) : ∃ value, x = .ok value ∧ p value = true := by
  cases x with
  | error => exact absurd h (by simp [Except.toOption])
  | ok value => exact ⟨value, rfl, h⟩

variable {α β : Type}

/-- Nothing after a raise succeeds. -/
theorem throw_bind_ne_ok {failure : Failure} {f : α → Result β} {r : β} :
    ((throw failure : Result α) >>= f) ≠ .ok r := by
  intro h
  obtain ⟨a, ha, -⟩ := bind_eq_ok h
  exact absurd ha (by simp [throw, throwThe, MonadExceptOf.throw])

variable {f g : α → Result β}

theorem bind_congr_ok {x : Result α} (h : ∀ a, x = .ok a → f a = g a) : (x >>= f) = (x >>= g) := by
  cases x with
  | error => rfl
  | ok a => exact h a rfl

section

variable {β α : Type} {f : α → Result β} {ys : List β} {xs : List α} (h : xs.mapM f = .ok ys)
include h

theorem mapM_eq_ok : List.Forall₂ (fun x y => f x = .ok y) xs ys := by
  induction xs generalizing ys with
  | nil =>
    obtain rfl := Except.ok.inj h
    exact .nil
  | cons _ _ ih =>
    rw [List.mapM_cons] at h
    obtain ⟨y, hy, h⟩ := bind_eq_ok h
    obtain ⟨rest, hrest, h⟩ := bind_eq_ok h
    obtain rfl := Except.ok.inj h
    exact .cons hy (ih hrest)

omit h in
theorem forall₂_mem {related : α → β → Prop} {xs : List α} {ys : List β}
    (hall : List.Forall₂ related xs ys) {x : α} (hx : x ∈ xs) : ∃ y ∈ ys, related x y := by
  induction hall with
  | nil => cases hx
  | cons hy _ ih =>
    rcases List.mem_cons.mp hx with rfl | hx
    · exact ⟨_, by simp, hy⟩
    · obtain ⟨y, hmem, hrun⟩ := ih hx
      exact ⟨y, by simp [hmem], hrun⟩

theorem mapM_ok_of_mem {x : α} (hx : x ∈ xs) : ∃ y ∈ ys, f x = .ok y :=
  forall₂_mem (mapM_eq_ok h) hx

theorem mapM_mem {y : β} (hy : y ∈ ys) : ∃ x ∈ xs, f x = .ok y :=
  forall₂_mem (mapM_eq_ok h).flip hy

end

/-- Two successful traversals of one list are related element by element. -/
theorem mapM_forall₂ {related : β → β → Prop} {xs : List α} {ys zs : List β}
    (hy : xs.mapM f = .ok ys) (hz : xs.mapM g = .ok zs)
    (hstep : ∀ x ∈ xs, ∀ y z, f x = .ok y → g x = .ok z → related y z) :
    List.Forall₂ related ys zs := by
  have hys := mapM_eq_ok hy
  have hzs := mapM_eq_ok hz
  clear hy hz
  induction hys generalizing zs with
  | nil =>
    cases hzs
    exact .nil
  | @cons x y xs ys hfirst _ ih =>
    cases hzs with
    | cons hsecond hrest =>
      exact .cons (hstep x (by simp) _ _ hfirst hsecond)
        (ih (fun x' hx' => hstep x' (by simp [hx'])) hrest)

/-- `Decimal` division, which raises on a zero divisor. -/
def divide (numerator denominator : Decimal) : Result Decimal :=
  if denominator = 0 then .error .divisionByZero else .ok (numerator / denominator)

theorem divide_of_ne {numerator denominator : Decimal} (h : denominator ≠ 0) :
    divide numerator denominator = .ok (numerator / denominator) := if_neg h

theorem divide_eq_ok {numerator denominator quotient : Decimal}
    (h : divide numerator denominator = .ok quotient) :
    denominator ≠ 0 ∧ quotient = numerator / denominator := by
  unfold divide at h
  split at h
  · cases h
  next hne => exact ⟨hne, (Except.ok.inj h).symm⟩

/-- `a or b` on optional text: a missing or empty `a` is falsy. -/
def orText (a b : Option String) : Option String :=
  match a with
  | none => b
  | some s => if s = "" then b else some s

/-- `a or b` on plain text: an empty `a` is falsy. -/
def orBlank (a b : String) : String := if a = "" then b else a

@[simp] theorem orBlank_empty (b : String) : orBlank "" b = b := rfl

theorem orBlank_of_ne {a b : String} (h : a ≠ "") : orBlank a b = a := if_neg h

/-! ## Printed identities -/

/-- One lower-case hexadecimal digit. -/
def hexDigit (n : Nat) : Char :=
  if n < 10 then Char.ofNat (48 + n) else Char.ofNat (87 + n)

/-- `str(uuid)`: 32 hexadecimal digits grouped 8-4-4-4-12. -/
def uuidText (id : Uuid) : List Char :=
  let digits := (List.range 32).map (fun i => hexDigit (id.toNat / 16 ^ (31 - i) % 16))
  digits.take 8 ++ '-' :: (digits.drop 8).take 4 ++ '-' :: (digits.drop 12).take 4 ++
    '-' :: (digits.drop 16).take 4 ++ '-' :: digits.drop 20

/-- `text.startswith(prefix)`. -/
def startsWith (text head : List Char) : Bool := head.isPrefixOf text

end Thytrader
