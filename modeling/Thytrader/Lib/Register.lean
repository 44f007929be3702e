import Mathlib.Tactic.Ring

/-!
# Versioned registers

The abstract content of optimistic concurrency: one register holds a value and a revision, every
accepted write advances the revision by one, and a writer may overwrite the value with the one it
saw only while the revision it saw is still current. `Inv` is the invariant that makes this safe —
the value is the base plus every delta applied so far, and a view taken `k` accepted writes ago is
exactly `k` revisions behind. So a fenced overwrite loses no delta (`Inv.current`).
-/

namespace Thytrader.Lib

/-- What a writer saw: the revision and value, and the write count at that time. -/
structure View (α : Type) where
  revision : Int
  value : α
  writes : Nat
  deriving DecidableEq

/-- A register with its history: accepted writes, applied deltas, views taken. -/
structure Register (α : Type) where
  revision : Int
  value : α
  writes : Nat
  ledger : α
  views : List (View α)

namespace Register

variable {α : Type} [AddCommGroup α]

/-- Take a view of the current state. -/
def observe (r : Register α) : Register α :=
  { r with views := ⟨r.revision, r.value, r.writes⟩ :: r.views }

/-- An accepted write that applies `delta`. -/
def write (r : Register α) (delta : α) : Register α :=
  { r with
    revision := r.revision + 1
    value := r.value + delta
    writes := r.writes + 1
    ledger := r.ledger + delta }

/-- The value is the base plus the applied deltas, and views lag by accepted writes. -/
structure Inv (base : α) (r : Register α) : Prop where
  balance : r.value = base + r.ledger
  lag : ∀ v ∈ r.views, v.writes ≤ r.writes ∧ r.revision - v.revision = r.writes - v.writes
  current : ∀ v ∈ r.views, v.revision = r.revision → v.value = r.value

variable {base : α} {r : Register α}

theorem Inv.observe (h : Inv base r) : Inv base r.observe := by
  refine ⟨h.balance, ?_, ?_⟩
  · intro v hv
    rcases List.mem_cons.mp hv with rfl | hv
    · exact ⟨le_refl _, by simp [Register.observe]⟩
    · exact h.lag v hv
  · intro v hv hrevision
    rcases List.mem_cons.mp hv with rfl | hv
    · rfl
    · exact h.current v hv hrevision

theorem Inv.write (h : Inv base r) (delta : α) : Inv base (r.write delta) := by
  refine ⟨?_, ?_, ?_⟩
  · show r.value + delta = base + (r.ledger + delta)
    rw [h.balance, add_assoc]
  · intro v hv
    obtain ⟨hle, hlag⟩ := h.lag v hv
    show v.writes ≤ r.writes + 1 ∧ r.revision + 1 - v.revision = ((r.writes + 1 : Nat) : Int) - v.writes
    omega
  · intro v hv hrevision
    -- a view is never ahead of the register, so none equals the advanced revision
    obtain ⟨hle, hlag⟩ := h.lag v hv
    have hahead : v.revision = r.revision + 1 := hrevision
    omega

theorem Inv.view_current (h : Inv base r) {v : View α} (hv : v ∈ r.views)
    (hrevision : v.revision = r.revision) : v.value = r.value ∧ v.writes = r.writes := by
  obtain ⟨hle, hlag⟩ := h.lag v hv
  refine ⟨h.current v hv hrevision, ?_⟩
  omega

end Register

end Thytrader.Lib
