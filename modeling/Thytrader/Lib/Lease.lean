import Mathlib.Order.MinMax
import Mathlib.Order.WithBot

/-!
# Leases with an expiry

One record names at most one holder and the time its lease runs out. A claim is
granted while the record is free, has run out at the claimant's own clock, or
names the claimant. Every holder remembers the deadline it was last granted and
forgets it when it releases, so the record and the holders' views can disagree.
`Inv` bounds the disagreement: a deadline still in somebody's view is the
recorded one, or it is no later than some clock reading at which a claim was
granted. From that instant on at most one view has not run out.
-/

namespace Thytrader.Lib

/-- The recorded lease, the deadline last granted to each holder, and the largest clock reading of a
granted claim. -/
structure Lease (H T : Type) where
  holder : Option H
  expires : Option T
  views : H → Option T
  latest : WithBot T

namespace Lease

variable {H T : Type} [LinearOrder T]

/-- A remembered deadline is the recorded one or lies behind a granted claim. -/
def Inv (lease : Lease H T) : Prop :=
  ∀ h e, lease.views h = some e →
    (lease.holder = some h ∧ lease.expires = some e) ∨ (e : WithBot T) ≤ lease.latest

variable {lease : Lease H T} {h : H}

theorem Inv.recorded (hinv : lease.Inv) {e t : T} (hview : lease.views h = some e)
    (ht : lease.latest ≤ t) (hrunning : t < e) :
    lease.holder = some h ∧ lease.expires = some e := by
  rcases hinv h e hview with hrecorded | hold
  · exact hrecorded
  · exact absurd (WithBot.coe_le_coe.mp (hold.trans ht)) (not_le.mpr hrunning)

/-- Two different holders never both have a view that has not run out. -/
theorem Inv.exclusive (hinv : lease.Inv) {h' : H} {e e' t : T} (hne : h ≠ h')
    (hview : lease.views h = some e) (hview' : lease.views h' = some e') (ht : lease.latest ≤ t) :
    ¬ (t < e ∧ t < e') := by
  intro hrunning
  have hfirst := (hinv.recorded hview ht hrunning.1).1
  have hsecond := (hinv.recorded hview' ht hrunning.2).1
  rw [hfirst] at hsecond
  exact hne (Option.some.inj hsecond)

variable [DecidableEq H]

/-- A claim by `h` at its clock reading `now` is admitted. -/
def Free (lease : Lease H T) (h : H) (now : T) : Prop :=
  lease.holder = none ∨ lease.expires = none ∨ (∃ e, lease.expires = some e ∧ e ≤ now) ∨
    lease.holder = some h

/-- Record `h` until `deadline`, claimed at `now`. -/
def grant (lease : Lease H T) (h : H) (now deadline : T) : Lease H T :=
  { holder := some h
    expires := some deadline
    views := Function.update lease.views h (some deadline)
    latest := max lease.latest now }

/-- Free the record of `h`, which forgets its deadline. -/
def release (lease : Lease H T) (h : H) (now : T) : Lease H T :=
  { lease with
    holder := none
    expires := some now
    views := Function.update lease.views h none }

variable {now : T}

theorem Inv.grant (hinv : lease.Inv) (hfree : lease.Free h now) (deadline : T) :
    (lease.grant h now deadline).Inv := by
  intro other e hview
  by_cases hself : other = h
  · subst hself
    rw [show (lease.grant other now deadline).views other = some deadline from
      Function.update_self ..] at hview
    exact .inl ⟨rfl, hview⟩
  · rw [show (lease.grant h now deadline).views other = lease.views other from
      Function.update_of_ne hself ..] at hview
    refine .inr ?_
    rcases hinv other e hview with ⟨hholder, hexpires⟩ | hold
    · -- the record names `other`, so only its expiry can have admitted the claim
      rcases hfree with hnone | hnone | ⟨e', he', hle⟩ | hsame
      · rw [hholder] at hnone
        cases hnone
      · rw [hexpires] at hnone
        cases hnone
      · rw [hexpires] at he'
        rw [Option.some.inj he']
        exact le_max_of_le_right (WithBot.coe_le_coe.mpr hle)
      · rw [hholder] at hsame
        exact absurd (Option.some.inj hsame) hself
    · exact le_max_of_le_left hold

theorem Inv.release (hinv : lease.Inv) (hheld : lease.holder = some h) (now : T) :
    (lease.release h now).Inv := by
  intro other e hview
  by_cases hself : other = h
  · subst hself
    rw [show (lease.release other now).views other = none from Function.update_self ..] at hview
    cases hview
  · rw [show (lease.release h now).views other = lease.views other from
      Function.update_of_ne hself ..] at hview
    rcases hinv other e hview with ⟨hholder, _⟩ | hold
    · rw [hheld] at hholder
      exact absurd (Option.some.inj hholder).symm hself
    · exact .inr hold

end Lease

end Thytrader.Lib
